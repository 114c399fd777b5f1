import NmOpenvpn3.Rust.Str
import NmOpenvpn3.Rust.Decimal
import NmOpenvpn3.Rust.Dict
import NmOpenvpn3.Agreement.Reexport
import NmOpenvpn3.Agreement.SaveAs
import NmOpenvpn3.Agreement.Imports
import NmOpenvpn3.Agreement.Credentials
import NmOpenvpn3.Agreement.Stale
import NmOpenvpn3.Agreement.Accepted
import NmOpenvpn3.Agreement.Lists
import NmOpenvpn3.Agreement.Inline
import NmOpenvpn3.Agreement.Material
import NmOpenvpn3.ImportExport.Repeated
import NmOpenvpn3.Ovpn.RoundTrip
import NmOpenvpn3.Plugin.Teardown
import NmOpenvpn3.Plugin.Started
import NmOpenvpn3.Plugin.Timeout
import NmOpenvpn3.Plugin.Final
import NmOpenvpn3.Plugin.Deliberate
import NmOpenvpn3.Plugin.Handlers
import NmOpenvpn3.Plugin.Provided
import NmOpenvpn3.Plugin.Refusal
import NmOpenvpn3.Plugin.Kept
import NmOpenvpn3.Plugin.Announcements
import NmOpenvpn3.Plugin.Polls
import NmOpenvpn3.Client.Retry
import NmOpenvpn3.Service.Routes
import NmOpenvpn3.Service.Controls
import NmOpenvpn3.Ovpn.Concat
import NmOpenvpn3.AuthDialog.Details
import NmOpenvpn3.AuthDialog.KeyFile
import NmOpenvpn3.Agreement.NameCheck
import NmOpenvpn3.Editor.Unedited
import NmOpenvpn3.Plugin.Progress
import NmOpenvpn3.Plugin.Attended
import NmOpenvpn3.Editor.Overrides
import NmOpenvpn3.Agreement.Profiles
import NmOpenvpn3.ImportExport.Blobs
import NmOpenvpn3.Plugin.Ip4
import NmOpenvpn3.ImportExport.ProxyAuth
import NmOpenvpn3.AuthDialog.Passphrase
import NmOpenvpn3.Agreement.Asked
import NmOpenvpn3.Agreement.Activation
