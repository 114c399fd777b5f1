import NmOpenvpn3.Agreement.Imports

/-!
# Inline material and paths

An inline blob stands for the path that the option of the same name would give, so the import should
come to the same connection type and the same key directions in both cases. The import loop has two
tables, one for options and one for blobs, and they differ in two rows: an inline bundle does not
count as a certificate with its key, and an inline `tls-auth` key does not attract a standalone
`key-direction`. `blob_like_path_iff` says in which configs this is seen.
-/

namespace NmOpenvpn3

namespace Agreement

open Rust Ovpn ImportExport

/-! ## What the flags stand for -/

/-- A directive that gives a certificate or a key: an inline blob, or an option with a path. The
path of a bundle gives both. -/
def gives (slot : String) : Directive → Bool
  | .blob name _ => name == slot
  | .option name args => (name == slot || name == "pkcs12") && !args.isEmpty

theorem fills_eq_gives {slot : String} (hslot : slot ∈ ["cert", "key"]) (x : Directive) :
    fills slot slot x = gives slot x := by
  cases x with
  | blob name body => rfl
  | option name args =>
    have harms : ∀ s ∈ ["cert", "key"], ∀ q ∈ armsTouching s, q.1 = s ∨ q.1 = "pkcs12" := by
      decide
    simp only [fills, gives]
    by_cases hname : name = slot ∨ name = "pkcs12"
    · -- Both options store their first argument.
      have htwo : (stored slot (.option name args)) = args[0]? := by
        have hread : ∀ s ∈ ["cert", "key"], (s, bundleReads s) ∈ readTable := by decide
        have hlook : (bundleReads slot).lookup name = some (.nth 0) := by
          simp only [List.mem_cons, List.not_mem_nil, or_false] at hslot
          rcases hslot with rfl | rfl <;> rcases hname with rfl | rfl <;> decide
        have hkeep : name = "keepalive" → args[1]?.isSome := by
          rintro rfl
          simp only [List.mem_cons, List.not_mem_nil, or_false] at hslot
          rcases hslot with rfl | rfl <;> exact absurd hname (by decide)
        rw [stored_option_eq (hread slot hslot) hkeep, hlook]
        rfl
      have hany : (name == slot || name == "pkcs12") = true := by simpa using hname
      rw [htwo, hany, Bool.true_and]
      cases args <;> rfl
    · have hany : (name == slot || name == "pkcs12") = false := by simpa using hname
      rw [hany, Bool.false_and, Option.isSome_eq_false_iff, Option.isNone_iff_eq_none]
      refine stored_option_eq_none (fun q hq he ↦ hname ?_) args
      exact he ▸ harms slot hslot q hq

/-- The connection type, by what the config carries. -/
theorem asNmData_connectionType_eq (c : OvpnConfig) :
    asNmData c "connection-type" = some (
      if c.directives.any setsSecret then "static-key"
      else if c.directives.any (gives "cert") && c.directives.any (gives "key") &&
          c.directives.any (isOption "auth-user-pass") then "password-tls"
      else if c.directives.any (gives "cert") && c.directives.any (gives "key") then "tls"
      else if c.directives.any (isOption "auth-user-pass") then "password"
      else "tls") := by
  obtain ⟨hcert, hkey, hsecret, -⟩ := importAll_flags c.directives
  rw [funext (fills_eq_gives (by decide))] at hcert hkey
  rw [funext fills_secret] at hsecret
  rw [asNmData_connectionType, inferConnectionType, hcert, hkey, hsecret,
    importAll_haveAuthUserPass]
  simp only [ite_self]

/-! ## One directive among others -/

section Among

variable {ds ds' : List Directive} {x : Directive}

theorem any_among (q : Directive → Bool) :
    (ds ++ x :: ds').any q = (q x || (ds ++ ds').any q) := by
  rw [List.any_append, List.any_cons, List.any_append, Bool.or_left_comm]

theorem findSome?_among {f : Directive → Option String} (h : f x = none) :
    (ds ++ x :: ds').reverse.findSome? f = (ds ++ ds').reverse.findSome? f := by
  simp [List.findSome?_append, h]

end Among

/-- Without a `key-direction` that has an argument there is no direction. -/
theorem standaloneDirection_eq_none {ds : List Directive} :
    standaloneDirection ds = none ↔ ∀ args, .option "key-direction" args ∈ ds → args = [] := by
  rw [standaloneDirection, List.findSome?_eq_none_iff]
  constructor
  · intro h args hx
    have := h _ (List.mem_reverse.mpr hx)
    simpa [directionOf] using this
  · intro h x hx
    cases x with
    | blob name body => rfl
    | option name args =>
      by_cases hname : name = "key-direction"
      · subst hname
        rw [h args (List.mem_reverse.mp hx)]
        rfl
      · exact if_neg hname

/-- The direction of a `tls-auth` key is only stored with its option. -/
theorem lastStored_taDir_eq_none {ds : List Directive}
    (h : ds.any (isOption "tls-auth") = false) : lastStored "ta-dir" ds = none := by
  have harms : ∀ q ∈ armsTouching "ta-dir", q.1 = "tls-auth" := by decide
  by_contra hne
  obtain ⟨v, hv⟩ := Option.ne_none_iff_exists'.mp hne
  obtain ⟨x, hx, hs⟩ := exists_of_lastStored hv
  obtain ⟨name, arm, args, rfl, -, harm, -⟩ := stored_eq_some hs
  have hname : name = "tls-auth" := harms _ harm
  have := List.any_eq_false.mp h _ hx
  simp [isOption, hname] at this

/-! ## Blob and path -/

/-- What else a config carries when a blob is classified like a path. -/
structure ClassifiedAlike (name : String) (others : List Directive) : Prop where
  /-- Without a bundle there is a static key, or a certificate with its key, or no password. -/
  bundle : name = "pkcs12" → others.any setsSecret = true ∨
    (others.any (gives "cert") = true ∧ others.any (gives "key") = true) ∨
      others.any (isOption "auth-user-pass") = false
  /-- There is another `tls-auth` with a path, or no direction to assign. -/
  direction : name = "tls-auth" → others.any (isOption "tls-auth") = true ∨
    ∀ args, .option "key-direction" args ∈ others → args = []

section BlobPath

variable {name : String} (hname : name ∈ inlineBlobNames) (body path : String)
  (ds ds' : List Directive)

include hname

/-- The rows of the two tables agree, up to those of a bundle and of a `tls-auth` key. -/
theorem rows_agree :
    setsSecret (.blob name body) = setsSecret (.option name [path]) ∧
      (name ≠ "pkcs12" →
        gives "cert" (.blob name body) = gives "cert" (.option name [path]) ∧
          gives "key" (.blob name body) = gives "key" (.option name [path])) ∧
      isOption "auth-user-pass" (.option name [path]) = false ∧
      directionOf (.option name [path]) = none ∧
      stored "ta-dir" (.option name [path]) = none ∧
      stored "static-key-direction" (.option name [path]) = none := by
  have hrows : ∀ n ∈ inlineBlobNames, n ≠ "auth-user-pass" ∧ n ≠ "key-direction" := by decide
  obtain ⟨hauth, hdir⟩ := hrows name hname
  refine ⟨by simp [setsSecret], fun hne ↦ ?_, by simpa [isOption] using hauth,
    if_neg hdir, ?_, ?_⟩
  · simp [gives, hne]
  · -- Only a second argument of `tls-auth` sets this direction, and only one of `secret` the other.
    have harms : ∀ q ∈ armsTouching "ta-dir", q.2 = .tlsAuth := by decide
    by_contra hne
    obtain ⟨v, hv⟩ := Option.ne_none_iff_exists'.mp hne
    obtain ⟨_, arm, _, he, -, harm, hd⟩ := stored_eq_some hv
    obtain ⟨-, rfl⟩ := Directive.option.inj he
    obtain rfl : arm = .tlsAuth := harms _ harm
    simp (disch := decide) [Arm.apply, Dict.setOpt_of_ne, ImportState.init] at hd
  · have harms : ∀ q ∈ armsTouching "static-key-direction", q.2 = .secret := by decide
    by_contra hne
    obtain ⟨v, hv⟩ := Option.ne_none_iff_exists'.mp hne
    obtain ⟨_, arm, _, he, -, harm, hd⟩ := stored_eq_some hv
    obtain ⟨-, rfl⟩ := Directive.option.inj he
    obtain rfl : arm = .secret := harms _ harm
    simp (disch := decide) [Arm.apply, Dict.setOpt_of_ne, ImportState.init] at hd

/-- The connection type is the same, unless only the blob is the bundle of a login by password. -/
theorem connectionType_blob_iff :
    asNmData ⟨ds ++ .blob name body :: ds'⟩ "connection-type" =
        asNmData ⟨ds ++ .option name [path] :: ds'⟩ "connection-type" ↔
      (name = "pkcs12" → (ds ++ ds').any setsSecret = true ∨
        ((ds ++ ds').any (gives "cert") = true ∧ (ds ++ ds').any (gives "key") = true) ∨
          (ds ++ ds').any (isOption "auth-user-pass") = false) := by
  obtain ⟨hsecret, hgives, hauth, -⟩ := rows_agree hname body path
  have hauth' : isOption "auth-user-pass" (.blob name body) = false := rfl
  simp only [asNmData_connectionType_eq, any_among, hsecret, hauth, hauth', Bool.false_or]
  by_cases hp : name = "pkcs12"
  · subst hp
    have hblob : gives "cert" (.blob "pkcs12" body) = false ∧
        gives "key" (.blob "pkcs12" body) = false := by simp [gives]
    have hpath : gives "cert" (.option "pkcs12" [path]) = true ∧
        gives "key" (.option "pkcs12" [path]) = true := by simp [gives]
    rw [hblob.1, hblob.2, hpath.1, hpath.2]
    have hs : setsSecret (.option "pkcs12" [path]) = false := by simp [setsSecret]
    rw [hs]
    cases (ds ++ ds').any setsSecret <;> cases (ds ++ ds').any (gives "cert") <;>
      cases (ds ++ ds').any (gives "key") <;>
      cases (ds ++ ds').any (isOption "auth-user-pass") <;> simp
  · obtain ⟨hcert, hkey⟩ := hgives hp
    rw [hcert, hkey]
    exact iff_of_true rfl fun h ↦ absurd h hp

/-- The directions are the same, unless only the blob is the `tls-auth` key that a standalone
direction is for. -/
theorem directions_blob_iff :
    (asNmData ⟨ds ++ .blob name body :: ds'⟩ "ta-dir" =
        asNmData ⟨ds ++ .option name [path] :: ds'⟩ "ta-dir" ∧
      asNmData ⟨ds ++ .blob name body :: ds'⟩ "static-key-direction" =
        asNmData ⟨ds ++ .option name [path] :: ds'⟩ "static-key-direction") ↔
      (name = "tls-auth" → (ds ++ ds').any (isOption "tls-auth") = true ∨
        ∀ args, .option "key-direction" args ∈ ds ++ ds' → args = []) := by
  obtain ⟨hsecret, -, -, hdir, hta, hstatic⟩ := rows_agree hname body path
  rw [(asNmData_directions _).1, (asNmData_directions _).1, (asNmData_directions _).2,
    (asNmData_directions _).2, ← standaloneDirection_eq_none]
  simp only [funext fills_secret, any_among, hsecret, lastStored, standaloneDirection,
    findSome?_among hdir, findSome?_among hta, findSome?_among hstatic,
    findSome?_among (show directionOf (.blob name body) = none from rfl),
    findSome?_among (show stored "ta-dir" (.blob name body) = none from rfl),
    findSome?_among (show stored "static-key-direction" (.blob name body) = none from rfl)]
  by_cases ht : name = "tls-auth"
  · subst ht
    have hblob : isOption "tls-auth" (.blob "tls-auth" body) = false := rfl
    have hpath : isOption "tls-auth" (.option "tls-auth" [path]) = true := rfl
    rw [hblob, hpath]
    cases hany : (ds ++ ds').any (isOption "tls-auth") with
    | true => exact iff_of_true ⟨rfl, rfl⟩ fun _ ↦ .inl rfl
    | false =>
      -- No argument has set the direction, so that a standalone one is not held off.
      have hnone : (ds ++ ds').reverse.findSome? (stored "ta-dir") = none :=
        lastStored_taDir_eq_none hany
      rw [hnone]
      cases (ds ++ ds').reverse.findSome? directionOf with
      | none => simp
      | some dir => simp
  · have hopt : isOption "tls-auth" (.option name [path]) = false := by simpa [isOption] using ht
    rw [hopt]
    exact iff_of_true ⟨rfl, rfl⟩ fun h ↦ absurd h ht

end BlobPath

/-- **Inline material is classified like a path**, up to two rows: a blob and a path in its place
lead to the same connection type and the same directions exactly when the rest of the config makes
up for the difference. -/
theorem blob_like_path_iff {name : String} (hname : name ∈ inlineBlobNames) (body path : String)
    (ds ds' : List Directive) :
    (∀ k ∈ ["connection-type", "ta-dir", "static-key-direction"],
      asNmData ⟨ds ++ .blob name body :: ds'⟩ k =
        asNmData ⟨ds ++ .option name [path] :: ds'⟩ k) ↔ ClassifiedAlike name (ds ++ ds') := by
  simp only [List.forall_mem_cons, List.not_mem_nil, false_implies, implies_true, and_true]
  rw [connectionType_blob_iff hname, directions_blob_iff hname]
  exact ⟨fun h ↦ ⟨h.1, h.2⟩, fun h ↦ ⟨h.bundle, h.direction⟩⟩

/-- A `tls-auth` key next to its direction is classified like a path when it is given by path
elsewhere. -/
theorem blob_like_path_tlsAuth :
    "tls-auth" ∈ inlineBlobNames ∧
      ∀ k ∈ ["connection-type", "ta-dir", "static-key-direction"],
        asNmData ⟨[.option "key-direction" ["1"], .blob "tls-auth" "key\n",
            .option "tls-auth" ["ta.key"]]⟩ k =
          asNmData ⟨[.option "key-direction" ["1"], .option "tls-auth" ["other.key"],
            .option "tls-auth" ["ta.key"]]⟩ k :=
  ⟨by decide, (blob_like_path_iff (by decide) "key\n" "other.key" [.option "key-direction" ["1"]]
    [.option "tls-auth" ["ta.key"]]).mpr ⟨fun h ↦ absurd h (by decide), fun _ ↦ .inl rfl⟩⟩

/-- An inline bundle and an inline key with a direction, where a path is classified otherwise. -/
theorem blob_unlike_path :
    (OvpnConfig.parse "auth-user-pass\n<pkcs12>\nMIIK\n</pkcs12>\n" =
        .ok ⟨[.option "auth-user-pass" [], .blob "pkcs12" "MIIK\n"]⟩ ∧
      asNmData ⟨[.option "auth-user-pass" [], .blob "pkcs12" "MIIK\n"]⟩ "connection-type" =
        some "password" ∧
      asNmData ⟨[.option "auth-user-pass" [], .option "pkcs12" ["user.p12"]]⟩ "connection-type" =
        some "password-tls") ∧
    (OvpnConfig.parse "key-direction 1\n<tls-auth>\nkey\n</tls-auth>\n" =
        .ok ⟨[.option "key-direction" ["1"], .blob "tls-auth" "key\n"]⟩ ∧
      asNmData ⟨[.option "key-direction" ["1"], .blob "tls-auth" "key\n"]⟩ "ta-dir" = none ∧
      asNmData ⟨[.option "key-direction" ["1"], .option "tls-auth" ["ta.key"]]⟩ "ta-dir" =
        some "1") := by
  decide

end Agreement

end NmOpenvpn3
