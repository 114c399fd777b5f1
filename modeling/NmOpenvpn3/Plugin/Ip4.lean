import NmOpenvpn3.Client.Session
import NmOpenvpn3.Plugin.Tasks
import NmOpenvpn3.Service.Routes

/-!
# The configuration of a session

Once a session is up, `ip4::emit` tells NetworkManager about the tunnel in two dictionaries. It
reads the name of the device from the backend, the address of the device and its routes from the
host, and the gateway from the endpoint that the backend reports, which may have to be resolved.
Nothing is told unless all of it is there.

Addresses are words in the byte order of memory, on a little-endian host.
-/

namespace NmOpenvpn3

namespace Plugin

open Rust Client Service

/-! ## Words -/

/-- `u32::from(ip).to_be()`. -/
def beWord (ip : Ipv4Addr) : BitVec 32 := byteSwap ip.toU32

/-- The address whose octets a word has in memory: what NetworkManager reads. -/
def ofMemory (x : BitVec 32) : Ipv4Addr :=
  ⟨x.extractLsb' 0 8, x.extractLsb' 8 8, x.extractLsb' 16 8, x.extractLsb' 24 8⟩

theorem extractLsb'_octets (a b c d : BitVec 8) :
    (a ++ b ++ c ++ d).extractLsb' 0 8 = d ∧ (a ++ b ++ c ++ d).extractLsb' 8 8 = c ∧
      (a ++ b ++ c ++ d).extractLsb' 16 8 = b ∧ (a ++ b ++ c ++ d).extractLsb' 24 8 = a := by
  refine ⟨BitVec.extractLsb'_append_eq_right, ?_, ?_, ?_⟩
  · rw [BitVec.extractLsb'_append_eq_of_le (by omega)]
    exact BitVec.extractLsb'_append_eq_right
  · rw [BitVec.extractLsb'_append_eq_of_le (by omega),
      BitVec.extractLsb'_append_eq_of_le (by omega)]
    exact BitVec.extractLsb'_append_eq_right
  · rw [BitVec.extractLsb'_append_eq_of_le (by omega),
      BitVec.extractLsb'_append_eq_of_le (by omega)]
    exact BitVec.extractLsb'_append_eq_left

@[simp] theorem ofMemory_beWord (ip : Ipv4Addr) : ofMemory (beWord ip) = ip := by
  obtain ⟨a, b, c, d⟩ := ip
  simp only [ofMemory, beWord, byteSwap, Ipv4Addr.toU32, extractLsb'_octets]

/-- Only 0.0.0.0 is the word zero. -/
theorem beWord_eq_zero {ip : Ipv4Addr} : beWord ip = 0 ↔ ip = ⟨0, 0, 0, 0⟩ := by
  constructor
  · intro h
    rw [← ofMemory_beWord ip, h]
    rfl
  · rintro rfl
    rfl

/-! ## The dictionaries -/

/-- A value of the two dictionaries. -/
inductive Value where
  | str (s : String)
  | u32 (n : BitVec 32)
  | bool (b : Bool)
  | u32s (l : List (BitVec 32))
  | strs (l : List String)
  deriving DecidableEq

/-- `if_addrs::IfAddr`. -/
inductive IfAddr where
  | v4 (ip netmask : Ipv4Addr)
  | v6

/-- `if_addrs::Interface`. -/
structure Interface where
  name : String
  addr : IfAddr

/-- What `emit` reads. A call that fails has no result; neither has a lookup that takes too long. -/
structure Reads where
  deviceName : Option String
  ifAddrs : Option (List Interface)
  lastConnection : Option Property
  connectedTo : Option Property
  lookupHost : String → Option (List IpAddr)
  devicePath : Option Path
  dnsNameServers : Path → Option (List String)
  dnsSearchDomains : Path → Option (List String)
  procNetRoute : Option String

/-- `ifv4_to_addr_prefix`. -/
def ifv4ToAddrPrefix (ip netmask : Ipv4Addr) : BitVec 32 × BitVec 32 :=
  (beWord ip, netmask.toU32.cpop)

/-- The address of an interface, if it is an IPv4 address of the device. -/
def Interface.addrPrefix (tundev : String) (ifa : Interface) : Option (BitVec 32 × BitVec 32) :=
  if ifa.name = tundev then
    match ifa.addr with
    | .v4 ip netmask => some (ifv4ToAddrPrefix ip netmask)
    | .v6 => none
  else none

/-- `lookup_tun_ipv4`. -/
def lookupTunIpv4 (ifAddrs : Option (List Interface)) (tundev : String) :
    Option (BitVec 32 × BitVec 32) :=
  ifAddrs.bind (·.findSome? (Interface.addrPrefix tundev))

/-- `dns_strings_to_array`. -/
def dnsStringsToArray (servers : List String) : List (BitVec 32) :=
  (servers.filterMap fun s ↦ parseIpv4 s.toList).map beWord

inductive GatewayHost where
  | v4 (be : BitVec 32)
  | v6
  | name
  deriving DecidableEq

def classifyGatewayHost (host : String) : GatewayHost :=
  match parseIpAddr host.toList with
  | some (.v4 ip) => .v4 (beWord ip)
  | some .v6 => .v6
  | none => .name

/-- The first IPv4 address. -/
def firstV4 (addrs : List IpAddr) : Option Ipv4Addr :=
  addrs.findSome? fun
    | .v4 ip => some ip
    | .v6 => none

/-- The gateway that a host stands for, or zero. -/
def hostGateway (lookupHost : String → Option (List IpAddr)) (host : String) : BitVec 32 :=
  match classifyGatewayHost host with
  | .v4 be => be
  | .v6 => 0
  | .name => (((lookupHost (host ++ ":0")).bind firstV4).map beWord).getD 0

namespace Reads

variable (r : Reads)

/-- `ext_gw_be`. -/
def gateway : BitVec 32 :=
  ((sessionGetConnectedTo r.lastConnection r.connectedTo).map fun p ↦
    if p.2.1 = "" then 0 else hostGateway r.lookupHost p.2.1).getD 0

def dnsServers : List String := (r.devicePath.bind r.dnsNameServers).getD []

def dnsSearch : List String := (r.devicePath.bind r.dnsSearchDomains).getD []

/-- `routes::for_tun_device`. -/
def forTunDevice (tundev : String) : List Route :=
  (r.procNetRoute.map (parseProcRoutes · tundev)).getD []

end Reads

/-- The dictionary of `Config`. -/
def configDict (tundev : String) (gateway : BitVec 32) : Dict String Value :=
  .ofList [("tundev", .str tundev), ("gateway", .u32 gateway), ("has-ip4", .bool true),
    ("has-ip6", .bool false), ("can-persist", .bool false)]

/-- The dictionary of `Ip4Config`. The daemon has installed the routes itself; NetworkManager is
asked to keep them. -/
def ip4Dict (tundev : String) (addrPrefix : BitVec 32 × BitVec 32)
    (dnsServers dnsSearch : List String) (hasDefault : Bool) : Dict String Value :=
  let ip4 := Dict.ofList [("tundev", .str tundev), ("address", .u32 addrPrefix.1),
    ("prefix", .u32 addrPrefix.2), ("internal-gateway", .u32 0), ("preserve-routes", .bool true)]
  let ip4 := ip4.setOpt "dns"
    (if dnsServers = [] then none else some (.u32s (dnsStringsToArray dnsServers)))
  let ip4 := ip4.setOpt "domains" (if dnsSearch = [] then none else some (.strs dnsSearch))
  ip4.setOpt "never-default" (if hasDefault then none else some (.bool true))

/-- How `emit` fails. -/
inductive EmitError where
  | deviceName
  | emptyDeviceName
  | noAddress
  | noGateway
  | signal
  deriving DecidableEq

/-- The two dictionaries. -/
def payloads (r : Reads) : Except EmitError (Dict String Value × Dict String Value) :=
  match r.deviceName with
  | none => .error .deviceName
  | some tundev =>
    if tundev = "" then .error .emptyDeviceName
    else
      match lookupTunIpv4 r.ifAddrs tundev with
      | none => .error .noAddress
      | some addrPrefix =>
        if r.gateway = 0 then .error .noGateway
        else
          .ok (configDict tundev r.gateway, ip4Dict tundev addrPrefix r.dnsServers r.dnsSearch
            (hasDefaultRoute (r.forTunDevice tundev)))

/-- A signal with its dictionary. -/
inductive Told where
  | config (dict : Dict String Value)
  | ip4Config (dict : Dict String Value)

/-- `emit`: what NetworkManager is told, where each of the two signals may fail to be sent. -/
def ip4Emit (r : Reads) (config ip4Config : Bool) : List Told × Except EmitError Unit :=
  match payloads r with
  | .error e => ([], .error e)
  | .ok dicts =>
    if !config then ([], .error .signal)
    else if !ip4Config then ([.config dicts.1], .error .signal)
    else ([.config dicts.1, .ip4Config dicts.2], .ok ())

/-! ## Program points -/

/-- The signal of an operation, if it sends one. -/
def Op.sends : Op → List Signal
  | .send signal => [signal]
  | _ => []

/-- The signals of a run from a program point on, and whether it comes to its end. Each operation
may fail. -/
inductive Ip4Pc.Runs : Ip4Pc → List Signal → Bool → Prop
  | failed (pc : Ip4Pc) : pc.Runs [] false
  | last {pc : Ip4Pc} (hnext : pc.next = none) : pc.Runs pc.op.sends true
  | next {pc pc' : Ip4Pc} {signals : List Signal} {ended : Bool} (hnext : pc.next = some pc')
      (hrest : pc'.Runs signals ended) : pc.Runs (pc.op.sends ++ signals) ended

def Told.signal : Told → Signal
  | .config _ => .config
  | .ip4Config _ => .ip4Config

/-- `emit` runs through the program points that the listener and the poller have for it. -/
theorem ip4Emit_runs (r : Reads) (config ip4Config : Bool) :
    Ip4Pc.Runs .reads ((ip4Emit r config ip4Config).1.map Told.signal)
      (ip4Emit r config ip4Config).2.toBool := by
  rw [ip4Emit]
  cases payloads r with
  | error e => exact .failed _
  | ok dicts =>
    cases config with
    | false => exact .next rfl (.failed _)
    | true =>
      cases ip4Config with
      | false => exact .next rfl (.next rfl (.failed _))
      | true => exact .next rfl (.next rfl (.last rfl))

/-! ## What NetworkManager is told -/

/-- The address comes first among the IPv4 addresses of the device. -/
def FirstAddress (ifAddrs : Option (List Interface)) (tundev : String) (ip netmask : Ipv4Addr) :
    Prop :=
  ∃ before after, ifAddrs = some (before ++ ⟨tundev, .v4 ip netmask⟩ :: after) ∧
    ∀ ip' netmask', ⟨tundev, .v4 ip' netmask'⟩ ∉ before

/-- The mask of the first `p` bits. -/
def IsNetmask (netmask : Ipv4Addr) (p : ℕ) : Prop :=
  p ≤ 32 ∧ netmask.toU32 = BitVec.allOnes 32 <<< (32 - p)

/-- The host is an address, or a name whose first IPv4 address it is. -/
def GatewayOf (lookupHost : String → Option (List IpAddr)) (host : String) (ip : Ipv4Addr) : Prop :=
  host.toList = ip.text ∨
    parseIpAddr host.toList = none ∧ (lookupHost (host ++ ":0")).bind firstV4 = some ip

/-- The two dictionaries describe the tunnel of the device. -/
structure Describes (r : Reads) (tundev : String) (config ip4 : Dict String Value) : Prop where
  device : r.deviceName = some tundev ∧ tundev ≠ "" ∧ config "tundev" = some (.str tundev) ∧
    ip4 "tundev" = some (.str tundev)
  gateway : ∃ proto host port word,
    sessionGetConnectedTo r.lastConnection r.connectedTo = some (proto, host, port) ∧
      config "gateway" = some (.u32 word) ∧ word ≠ 0 ∧ GatewayOf r.lookupHost host (ofMemory word)
  address : ∃ ip netmask word, FirstAddress r.ifAddrs tundev ip netmask ∧
    ip4 "address" = some (.u32 word) ∧ ofMemory word = ip ∧
      ∀ p, IsNetmask netmask p → ip4 "prefix" = some (.u32 (BitVec.ofNat 32 p))
  /-- The servers that are IPv4 addresses, in their order. -/
  dns : ∀ words, ip4 "dns" = some (.u32s words) →
    ((words.map ofMemory).map Ipv4Addr.text).Sublist (r.dnsServers.map String.toList) ∧
      ∀ ip : Ipv4Addr, ip.text ∈ r.dnsServers.map String.toList → ip ∈ words.map ofMemory
  domains : ip4 "domains" = if r.dnsSearch = [] then none else some (.strs r.dnsSearch)
  /-- The tunnel may become the default route, unless the table has none through it. -/
  neverDefault : ip4 "never-default" = none ↔
    ∃ raw, r.procNetRoute = some raw ∧ hasDefaultRoute (parseProcRoutes raw tundev) = true

theorem classifyGatewayHost_eq_v4 {host : String} {be : BitVec 32} :
    classifyGatewayHost host = .v4 be ↔
      ∃ ip : Ipv4Addr, host.toList = ip.text ∧ beWord ip = be := by
  simp only [← parseIpAddr_eq_v4, classifyGatewayHost]
  cases parseIpAddr host.toList with
  | none => simp
  | some addr => cases addr <;> simp

theorem classifyGatewayHost_eq_name {host : String} :
    classifyGatewayHost host = .name ↔ parseIpAddr host.toList = none := by
  rw [classifyGatewayHost]
  cases parseIpAddr host.toList with
  | none => simp
  | some addr => cases addr <;> simp

/-- A gateway other than zero is that of the host. -/
theorem gatewayOf_hostGateway {lookupHost : String → Option (List IpAddr)} {host : String}
    (h : hostGateway lookupHost host ≠ 0) :
    GatewayOf lookupHost host (ofMemory (hostGateway lookupHost host)) := by
  rw [hostGateway] at h ⊢
  cases hclass : classifyGatewayHost host with
  | v4 be =>
    obtain ⟨ip, hip, rfl⟩ := classifyGatewayHost_eq_v4.mp hclass
    exact .inl (by simpa using hip)
  | v6 => simp [hclass] at h
  | name =>
    simp only [hclass] at h ⊢
    cases hlookup : (lookupHost (host ++ ":0")).bind firstV4 with
    | none => simp [hlookup] at h
    | some ip => exact .inr ⟨classifyGatewayHost_eq_name.mp hclass, by simpa using hlookup⟩

/-- A host has at most one gateway, and it is found. -/
theorem hostGateway_of_gatewayOf {lookupHost : String → Option (List IpAddr)} {host : String}
    {ip : Ipv4Addr} (h : GatewayOf lookupHost host ip) :
    hostGateway lookupHost host = beWord ip := by
  rw [hostGateway]
  obtain hip | ⟨hnone, hlookup⟩ := h
  · rw [classifyGatewayHost_eq_v4.mpr ⟨ip, hip, rfl⟩]
  · rw [classifyGatewayHost_eq_name.mpr hnone, hlookup]
    rfl

/-- The address and prefix of the device are those of its first IPv4 address. -/
theorem lookupTunIpv4_eq_some {ifAddrs : Option (List Interface)} {tundev : String}
    {addrPrefix : BitVec 32 × BitVec 32} :
    lookupTunIpv4 ifAddrs tundev = some addrPrefix ↔
      ∃ ip netmask, FirstAddress ifAddrs tundev ip netmask ∧
        addrPrefix = ifv4ToAddrPrefix ip netmask := by
  have hnone {ifa : Interface} : ifa.addrPrefix tundev = none ↔
      ∀ ip netmask, ifa ≠ ⟨tundev, .v4 ip netmask⟩ := by
    obtain ⟨name, addr⟩ := ifa
    cases addr <;> simp [Interface.addrPrefix]
  rw [lookupTunIpv4, Option.bind_eq_some_iff]
  simp only [List.findSome?_eq_some_iff, hnone]
  constructor
  · rintro ⟨_, rfl, before, ⟨name, addr⟩, after, rfl, hifa, hbefore⟩
    rw [Interface.addrPrefix, Option.ite_none_right_eq_some] at hifa
    obtain ⟨rfl, haddr⟩ := hifa
    cases addr with
    | v4 ip netmask =>
      exact ⟨ip, netmask, ⟨before, after, rfl, fun ip' netmask' hmem ↦ hbefore _ hmem _ _ rfl⟩,
        by simpa using haddr.symm⟩
    | v6 => simp at haddr
  · rintro ⟨ip, netmask, ⟨before, after, rfl, hbefore⟩, rfl⟩
    exact ⟨_, rfl, before, _, after, rfl, if_pos rfl,
      fun ifa hmem ip' netmask' hifa ↦ hbefore ip' netmask' (hifa ▸ hmem)⟩

/-- A mask has as many bits as its prefix is long. -/
theorem IsNetmask.cpop {netmask : Ipv4Addr} {p : ℕ} (h : IsNetmask netmask p) :
    netmask.toU32.cpop = BitVec.ofNat 32 p := by
  have hall : ∀ p < 33, (BitVec.allOnes 32 <<< (32 - p)).cpop = BitVec.ofNat 32 p := by decide
  rw [h.2, hall p (Nat.lt_succ_of_le h.1)]

/-- The servers that are told are those that are IPv4 addresses. -/
theorem dnsStringsToArray_spec (servers : List String) :
    (((dnsStringsToArray servers).map ofMemory).map Ipv4Addr.text).Sublist
        (servers.map String.toList) ∧
      ∀ ip : Ipv4Addr, ip.text ∈ servers.map String.toList →
        ip ∈ (dnsStringsToArray servers).map ofMemory := by
  have hmemory : (dnsStringsToArray servers).map ofMemory =
      servers.filterMap fun s ↦ parseIpv4 s.toList := by
    simp [dnsStringsToArray, List.map_map, Function.comp_def]
  rw [hmemory]
  constructor
  · induction servers with
    | nil => simp
    | cons s servers ih =>
      rw [List.filterMap_cons]
      cases hs : parseIpv4 s.toList with
      | none => exact (ih (by simp [dnsStringsToArray, Function.comp_def])).cons _
      | some ip =>
        rw [List.map_cons, List.map_cons, ← parseIpv4_eq_some.mp hs]
        exact (ih (by simp [dnsStringsToArray, Function.comp_def])).cons_cons _
  · intro ip hip
    obtain ⟨s, hs, htext⟩ := List.mem_map.mp hip
    exact List.mem_filterMap.mpr ⟨s, hs, parseIpv4_eq_some.mpr htext⟩

theorem configDict_spec (tundev : String) (gateway : BitVec 32) :
    configDict tundev gateway "tundev" = some (.str tundev) ∧
      configDict tundev gateway "gateway" = some (.u32 gateway) :=
  ⟨rfl, rfl⟩

section Ip4Dict

variable (tundev : String) (addrPrefix : BitVec 32 × BitVec 32) (dnsServers dnsSearch : List String)
  (hasDefault : Bool)

/-- The entries that are always there. -/
theorem ip4Dict_spec :
    ip4Dict tundev addrPrefix dnsServers dnsSearch hasDefault "tundev" = some (.str tundev) ∧
      ip4Dict tundev addrPrefix dnsServers dnsSearch hasDefault "address" =
        some (.u32 addrPrefix.1) ∧
      ip4Dict tundev addrPrefix dnsServers dnsSearch hasDefault "prefix" =
        some (.u32 addrPrefix.2) := by
  simp only [ip4Dict]
  refine ⟨?_, ?_, ?_⟩ <;>
    (rw [Dict.setOpt_of_ne (by decide), Dict.setOpt_of_ne (by decide),
      Dict.setOpt_of_ne (by decide)]; rfl)

theorem ip4Dict_dns : ip4Dict tundev addrPrefix dnsServers dnsSearch hasDefault "dns" =
    if dnsServers = [] then none else some (.u32s (dnsStringsToArray dnsServers)) := by
  simp only [ip4Dict]
  rw [Dict.setOpt_of_ne (by decide), Dict.setOpt_of_ne (by decide), Dict.setOpt_self]
  exact Option.or_none

theorem ip4Dict_domains : ip4Dict tundev addrPrefix dnsServers dnsSearch hasDefault "domains" =
    if dnsSearch = [] then none else some (.strs dnsSearch) := by
  simp only [ip4Dict]
  rw [Dict.setOpt_of_ne (by decide), Dict.setOpt_self, Dict.setOpt_of_ne (by decide)]
  exact Option.or_none

theorem ip4Dict_neverDefault :
    ip4Dict tundev addrPrefix dnsServers dnsSearch hasDefault "never-default" =
      if hasDefault then none else some (.bool true) := by
  simp only [ip4Dict]
  rw [Dict.setOpt_self, Dict.setOpt_of_ne (by decide), Dict.setOpt_of_ne (by decide)]
  exact Option.or_none

end Ip4Dict

theorem payloads_eq_ok {r : Reads} {dicts : Dict String Value × Dict String Value} :
    payloads r = .ok dicts ↔ ∃ tundev addrPrefix, r.deviceName = some tundev ∧ tundev ≠ "" ∧
      lookupTunIpv4 r.ifAddrs tundev = some addrPrefix ∧ r.gateway ≠ 0 ∧
      dicts = (configDict tundev r.gateway, ip4Dict tundev addrPrefix r.dnsServers r.dnsSearch
        (hasDefaultRoute (r.forTunDevice tundev))) := by
  rw [payloads]
  cases r.deviceName with
  | none => simp
  | some tundev =>
    by_cases hempty : tundev = ""
    · simp [hempty]
    · cases hlookup : lookupTunIpv4 r.ifAddrs tundev with
      | none => simp [hempty, hlookup]
      | some addrPrefix =>
        by_cases hgateway : r.gateway = 0
        · simp [hempty, hlookup, hgateway]
        · simp only [if_neg hempty, hlookup, if_neg hgateway, Except.ok.injEq]
          constructor
          · rintro rfl
            exact ⟨tundev, addrPrefix, rfl, hempty, hlookup, hgateway, rfl⟩
          · rintro ⟨tundev', addrPrefix', hdev, -, hlookup', -, rfl⟩
            obtain rfl := Option.some_inj.mp hdev
            obtain rfl := Option.some_inj.mp (hlookup.symm.trans hlookup')
            rfl

/-- The gateway comes from the endpoint that the backend reports. -/
theorem Reads.gatewayOf {r : Reads} (h : r.gateway ≠ 0) : ∃ proto host port,
    sessionGetConnectedTo r.lastConnection r.connectedTo = some (proto, host, port) ∧
      GatewayOf r.lookupHost host (ofMemory r.gateway) := by
  rw [Reads.gateway] at h ⊢
  cases hendpoint : sessionGetConnectedTo r.lastConnection r.connectedTo with
  | none => simp [hendpoint] at h
  | some p =>
    obtain ⟨proto, host, port⟩ := p
    simp only [hendpoint, Option.map_some, Option.getD_some] at h ⊢
    split_ifs at h ⊢ with hempty
    · exact absurd rfl h
    · exact ⟨proto, host, port, rfl, gatewayOf_hostGateway h⟩

theorem describes_of_payloads {r : Reads} {config ip4 : Dict String Value}
    (h : payloads r = .ok (config, ip4)) : ∃ tundev, Describes r tundev config ip4 := by
  obtain ⟨tundev, addrPrefix, hdev, hne, hlookup, hgateway, heq⟩ := payloads_eq_ok.mp h
  obtain ⟨rfl, rfl⟩ := Prod.mk.inj heq
  obtain ⟨proto, host, port, hendpoint, hof⟩ := Reads.gatewayOf hgateway
  obtain ⟨ip, netmask, hfirst, rfl⟩ := lookupTunIpv4_eq_some.mp hlookup
  have hconfig := configDict_spec tundev r.gateway
  have hip4 := ip4Dict_spec tundev (ifv4ToAddrPrefix ip netmask) r.dnsServers r.dnsSearch
    (hasDefaultRoute (r.forTunDevice tundev))
  refine ⟨tundev, ⟨hdev, hne, hconfig.1, hip4.1⟩, ⟨proto, host, port, _, hendpoint, hconfig.2,
    hgateway, hof⟩, ⟨ip, netmask, _, hfirst, hip4.2.1, ofMemory_beWord ip, fun p hp ↦ ?_⟩,
    fun words hwords ↦ ?_, ip4Dict_domains _ _ _ _ _, ?_⟩
  · rw [hip4.2.2, ifv4ToAddrPrefix, hp.cpop]
  · rw [ip4Dict_dns] at hwords
    split_ifs at hwords
    obtain rfl := by simpa using hwords
    exact dnsStringsToArray_spec r.dnsServers
  · rw [ip4Dict_neverDefault, Reads.forTunDevice]
    cases r.procNetRoute with
    | none => simp [hasDefaultRoute]
    | some raw => simp

/-- Nothing is told, or a `Config` that describes the tunnel, or it and then an `Ip4Config` that
does. The call succeeds in the last case. -/
theorem told_describes (r : Reads) (config ip4Config : Bool) :
    (ip4Emit r config ip4Config).1 = [] ∧ (ip4Emit r config ip4Config).2 ≠ .ok () ∨
      ∃ tundev c i, Describes r tundev c i ∧
        ((ip4Emit r config ip4Config).1 = [.config c] ∧ (ip4Emit r config ip4Config).2 ≠ .ok () ∨
          ip4Emit r config ip4Config = ([.config c, .ip4Config i], .ok ())) := by
  rw [ip4Emit]
  cases hdicts : payloads r with
  | error e => simp
  | ok dicts =>
    obtain ⟨tundev, hdescribes⟩ := describes_of_payloads hdicts
    cases config with
    | false => simp
    | true =>
      refine .inr ⟨tundev, dicts.1, dicts.2, hdescribes, ?_⟩
      cases ip4Config with
      | false => simp
      | true => simp

/-- Without a colon, a host that is no address is a name. -/
theorem gatewayOf_name {lookupHost : String → Option (List IpAddr)} {host : String} {ip : Ipv4Addr}
    (hcolon : ':' ∉ host.toList) (hno : ∀ ip' : Ipv4Addr, host.toList ≠ ip'.text)
    (hlookup : (lookupHost (host ++ ":0")).bind firstV4 = some ip) :
    GatewayOf lookupHost host ip := by
  refine .inr ⟨?_, hlookup⟩
  cases haddr : parseIpAddr host.toList with
  | none => rfl
  | some addr =>
    cases addr with
    | v4 ip' => exact absurd (parseIpAddr_eq_v4.mp haddr) (hno ip')
    | v6 => exact absurd (colon_mem_of_parseIpAddr haddr) hcolon

/-- Where the device is up and the backend names a host in any of its ways, NetworkManager is told
the gateway that the host is or resolves to, unless that is 0.0.0.0. -/
theorem told_of_endpoint {r : Reads} {tundev host : String} {ip netmask gateway : Ipv4Addr}
    (hdev : r.deviceName = some tundev) (hne : tundev ≠ "")
    (haddr : FirstAddress r.ifAddrs tundev ip netmask)
    (hnames : Names host r.lastConnection r.connectedTo) (hhost : host ≠ "")
    (hat : '@' ∉ host.toList) (hcolon : ':' ∉ host.toList)
    (hgateway : host.toList = gateway.text ∨ (∀ ip' : Ipv4Addr, host.toList ≠ ip'.text) ∧
      (r.lookupHost (host ++ ":0")).bind firstV4 = some gateway) :
    ip4Emit r true true =
      if gateway = ⟨0, 0, 0, 0⟩ then ([], .error .noGateway)
      else
        ([.config (configDict tundev (beWord gateway)),
          .ip4Config (ip4Dict tundev (ifv4ToAddrPrefix ip netmask) r.dnsServers r.dnsSearch
            (hasDefaultRoute (r.forTunDevice tundev)))], .ok ()) := by
  have hgateway : GatewayOf r.lookupHost host gateway :=
    hgateway.elim .inl fun h ↦ gatewayOf_name hcolon h.1 h.2
  obtain ⟨proto, port, hendpoint⟩ := hnames.found hhost hat hcolon
  have hword : r.gateway = beWord gateway := by
    rw [Reads.gateway, hendpoint, Option.map_some, Option.getD_some, if_neg hhost,
      hostGateway_of_gatewayOf hgateway]
  have hlookup : lookupTunIpv4 r.ifAddrs tundev = some (ifv4ToAddrPrefix ip netmask) :=
    lookupTunIpv4_eq_some.mpr ⟨ip, netmask, haddr, rfl⟩
  by_cases hzero : gateway = ⟨0, 0, 0, 0⟩
  · have hpayloads : payloads r = .error .noGateway := by
      simp only [payloads, hdev, if_neg hne, hlookup, hword, beWord_eq_zero.mpr hzero, if_true]
    rw [ip4Emit, hpayloads, if_pos hzero]
  · have hpayloads := payloads_eq_ok.mpr
      ⟨tundev, _, hdev, hne, hlookup, hword ▸ mt beWord_eq_zero.mp hzero, rfl⟩
    rw [ip4Emit, hpayloads, if_neg hzero, hword]
    rfl

/-- A device with the address 10.8.0.6/24, over an older daemon. -/
def sampleReads : Reads where
  deviceName := some "tun0"
  ifAddrs := some [⟨"eth0", .v4 ⟨1, 1, 1, 1⟩ ⟨255, 0, 0, 0⟩⟩, ⟨"tun0", .v6⟩,
    ⟨"tun0", .v4 ⟨10, 8, 0, 6⟩ ⟨255, 255, 255, 0⟩⟩]
  lastConnection := none
  connectedTo := some (.str "u@1.2.3.4:1194")
  lookupHost _ := none
  devicePath := none
  dnsNameServers _ := none
  dnsSearchDomains _ := none
  procNetRoute := none

theorem told_of_endpoint_sample : (ip4Emit sampleReads true true).2 = .ok () := by
  have hnames : Names "1.2.3.4" sampleReads.lastConnection sampleReads.connectedTo :=
    .str rfl ⟨['u', '@'], ":1194".toList, .inr ⟨['u'], rfl⟩,
      .inr ⟨"1194".toList, by decide, by decide, by decide⟩, by decide⟩
  have haddr : FirstAddress sampleReads.ifAddrs "tun0" ⟨10, 8, 0, 6⟩ ⟨255, 255, 255, 0⟩ :=
    ⟨[⟨"eth0", .v4 ⟨1, 1, 1, 1⟩ ⟨255, 0, 0, 0⟩⟩, ⟨"tun0", .v6⟩], [], rfl, by simp⟩
  rw [told_of_endpoint rfl (by decide) haddr hnames (by decide) (by decide) (by decide)
    (.inl (by decide : _ = (⟨1, 2, 3, 4⟩ : Ipv4Addr).text))]
  rfl

end Plugin

end NmOpenvpn3
