import VpnDirectory.Proofs.Directory.Preferences
import VpnDirectory.Proofs.Directory.Selection

/-!
# The way back from a profile

`Directory.position` gives the place of a profile, from which a gateway can be selected again.

* `Directory.bind_position` : this is the first gateway of the order that has the profile.
* `Directory.position_iff` : the place of any profile, whether or not a gateway has it, in terms of
  selection.
* `Directory.position_owner` : it is the gateway that the profile was taken from exactly if no
  earlier one has the same profile, and so whenever no other gateway of the order has both its
  location and its address.
* `Gateway.build_of_host` : a host does not show in profiles. Two entries that differ in their hosts
  alone have the same profiles, so that the second one is never found again
  (`Directory.position_sharedAddress`).
-/

namespace VpnDirectory

/-! ### Hosts and profiles -/

/-- The entry under another host. -/
def GatewayEntry.withHost (entry : GatewayEntry) (host : String) : GatewayEntry :=
  { entry with host }

namespace Blueprint

/-- The blueprint under another host. -/
def withHost (b : Blueprint) (host : String) : Blueprint :=
  { b with entry := b.entry.withHost host }

theorem text_withHost (b : Blueprint) (host : String) (t : Transport) :
    (b.withHost host).text t = b.text t := rfl

theorem obfuscation_withHost (b : Blueprint) (host : String) :
    (b.withHost host).obfuscation = b.obfuscation := rfl

theorem profile_withHost (b : Blueprint) (host : String) (t : Transport) :
    (b.withHost host).profile t = b.profile t := by
  rw [profile, profile, text_withHost, obfuscation_withHost]

/-- The host of a gateway does not go into its profiles. -/
theorem profiles_withHost (b : Blueprint) (host : String) :
    (b.withHost host).profiles = b.profiles := by
  rw [profiles, profiles, profile_withHost, profile_withHost]
  rfl

theorem make_withHost {general : Json.Members} {secrets : Secrets} {entry : GatewayEntry}
    {version : Int} {preferences : Preferences} {b : Blueprint}
    (h : make general secrets entry version preferences = .ok b) (host : String) :
    make general secrets (entry.withHost host) version preferences =
      .ok (b.withHost host) := by
  obtain ⟨matrix, hmatrix, rfl⟩ := make_eq_ok_iff.1 h
  exact make_eq_ok_iff.2 ⟨matrix, hmatrix, rfl⟩

end Blueprint

/-- Entries that differ in their hosts alone give gateways that differ in their hosts alone. -/
theorem Gateway.build_of_host {service : Service} {secrets : Secrets} {item item' : Json}
    {preferences : Preferences} {g : Gateway} {entry : GatewayEntry} {host : String}
    (hentry : GatewayEntry.ofJson item = .ok entry)
    (hentry' : GatewayEntry.ofJson item' = .ok (entry.withHost host))
    (h : build service secrets item preferences = .ok g) :
    build service secrets item' preferences = .ok { g with host } := by
  obtain ⟨entry₁, b, profiles, hentry₁, hmake, hprofiles, rfl⟩ := build_eq_ok_iff.1 h
  -- both items are read to the one entry, up to its host
  obtain rfl : entry = entry₁ := by simpa [hentry] using hentry₁
  refine build_eq_ok_iff.2
    ⟨_, _, profiles, hentry', Blueprint.make_withHost hmake host, ?_, rfl⟩
  rw [Blueprint.profiles_withHost, hprofiles]

namespace Directory

variable {d : Directory} {g : Gateway} {p : Profile} {t : Transport}

/-! ### Places of profiles -/

/-- Selecting at the place of a profile gives the first gateway of the order that has it. -/
theorem bind_position (d : Directory) (p : Profile) :
    ((d.position p).bind fun n => d.selectFor n (transportOf p) none) =
      d.ordered.find? fun g => decide (g.profile? (transportOf p) = some p) := by
  have hplace : ((d.position p).bind fun n => d.selectFor n (transportOf p) none) =
      (d.offered (transportOf p) none).find?
        fun g => decide (g.profile? (transportOf p) = some p) :=
    List.find?_eq_bind_findIdx?_getElem?.symm
  rw [hplace, offered, fitting, List.find?_filter]
  congr 1
  funext g
  -- a gateway that has the profile has the transport
  by_cases hp : g.profile? (transportOf p) = some p
  · simp [hp, Gateway.supports]
  · simp [hp]

/-- The gateway that is selected at the place has this very profile. -/
def HasProfileAt (d : Directory) (p : Profile) (n : Nat) : Prop :=
  ∃ g, d.selectFor n (transportOf p) none = some g ∧ g.profile? (transportOf p) = some p

theorem hasProfileAt_iff {n : Nat} : d.HasProfileAt p n ↔
    ∃ h : n < (d.offered (transportOf p) none).length,
      (d.offered (transportOf p) none)[n].profile? (transportOf p) = some p := by
  unfold HasProfileAt selectFor
  simp only [List.getElem?_eq_some_iff]
  constructor
  · rintro ⟨g, ⟨h, rfl⟩, hp⟩
    exact ⟨h, hp⟩
  · rintro ⟨h, hp⟩
    exact ⟨_, ⟨h, rfl⟩, hp⟩

theorem position_eq_some_iff {n : Nat} :
    d.position p = some n ↔ d.HasProfileAt p n ∧ ∀ m < n, ¬ d.HasProfileAt p m := by
  change (d.offered (transportOf p) none).findIdx?
    (fun g => decide (g.profile? (transportOf p) = some p)) = some n ↔ _
  simp only [List.findIdx?_eq_some_iff_getElem, hasProfileAt_iff, decide_eq_true_eq]
  constructor
  · rintro ⟨h, hp, hfirst⟩
    exact ⟨⟨h, hp⟩, fun m hm ⟨_, hp'⟩ => hfirst m hm hp'⟩
  · rintro ⟨⟨h, hp⟩, hfirst⟩
    exact ⟨h, hp, fun m hm hp' => hfirst m hm ⟨hm.trans h, hp'⟩⟩

theorem position_eq_none_iff :
    d.position p = none ↔ ∀ g ∈ d.ordered, g.profile? (transportOf p) ≠ some p := by
  change (d.offered (transportOf p) none).findIdx?
    (fun g => decide (g.profile? (transportOf p) = some p)) = none ↔ _
  simp only [List.findIdx?_eq_none_iff, decide_eq_false_iff_not]
  constructor
  · intro h g hg hp
    -- a gateway that has the profile has the transport
    have hsupports : g.supports (transportOf p) := by simp [Gateway.supports, hp]
    exact h g (List.mem_filter.2 ⟨hg, by simp [hsupports]⟩) hp
  · exact fun h g hg => h g (List.mem_filter.1 hg).1

variable {provider : Provider} {preferences : Preferences} {clientTimezone : Int}

/-- The place of a profile, be it the profile of a gateway, an altered one or a foreign one. It is
the first place at which a gateway with this very profile is selected, for the transport that the
profile is looked for under. There is none exactly if no gateway of the order has the profile under
that transport. The transport and the city that the client prefers make no difference. All of this
is so in wrapping arithmetic; in checked arithmetic the answer is the same, unless the order goes by
differences that do not fit, and then there is none. -/
theorem position_iff (provider : Provider) (preferences : Preferences) (clientTimezone : Int)
    (p : Profile) :
    let d := build provider preferences clientTimezone
    (∀ n, d.position p = some n ↔ d.HasProfileAt p n ∧ ∀ m < n, ¬ d.HasProfileAt p m) ∧
      (d.position p = none ↔ ∀ g ∈ d.ordered, g.profile? (transportOf p) ≠ some p) ∧
      (∀ city usesPluggable, (build provider
        { preferences with preferredCity := city, usesPluggable } clientTimezone).position p =
          d.position p) ∧
      ∀ arithmetic : Arithmetic,
        d.positionIn arithmetic p = arithmetic.answer d.isOrderInReach (d.position p) ∧
        (∀ n, d.selectForIn arithmetic n (transportOf p) none =
          arithmetic.answer d.isOrderInReach (d.selectFor n (transportOf p) none)) ∧
        ∀ city usesPluggable, (build provider
          { preferences with preferredCity := city, usesPluggable } clientTimezone).positionIn
            arithmetic p = d.positionIn arithmetic p := by
  intro d
  have hother (city : Option String) (usesPluggable : Bool) :
      build provider { preferences with preferredCity := city, usesPluggable } clientTimezone =
        { d with preferences := { preferences with preferredCity := city, usesPluggable } } :=
    build_eq_of_renderAlike ⟨rfl, rfl, rfl⟩ rfl
  refine ⟨fun n => position_eq_some_iff, position_eq_none_iff, fun city usesPluggable => ?_,
    fun arithmetic => ⟨positionIn_eq arithmetic d p,
      fun n => selectForIn_eq arithmetic d n (transportOf p) none, fun city usesPluggable => ?_⟩⟩
  · rw [hother]
    rfl
  · rw [hother]
    rfl

/-- What a profile of a directory says of its gateway. -/
theorem of_profile? (hg : g ∈ (build provider preferences clientTimezone).gateways)
    (hp : g.profile? t = some p) :
    transportOf p = t ∧ p.name = g.name ∧ p.gatewayIp = g.address := by
  obtain ⟨entry, -, hbuild⟩ := exists_entry_of_mem_gateways hg
  obtain ⟨-, b, -, -, hrepresents⟩ := Gateway.represents_of_build hbuild
  have hprofile := hrepresents.profiles t p hp
  refine ⟨?_, hprofile.name, hprofile.gatewayIp⟩
  rw [transportOf, hprofile.isPluggable]
  cases t with
  | openvpn => rfl
  | obfs4 => rfl
  | obfs4Hop => cases hp

/-- The way from a profile to its place and back to a gateway. It leads to the first gateway of the
order that has the profile, which is the one that the profile was taken from exactly if no gateway
before it has the same profile. A gateway of another location or with another address has another
profile. -/
theorem position_owner (hg : g ∈ (build provider preferences clientTimezone).ordered)
    (hp : g.profile? t = some p) :
    let d := build provider preferences clientTimezone
    ∃ n owner, d.position p = some n ∧ d.selectFor n t none = some owner ∧
      owner ∈ d.ordered ∧ owner.profile? t = some p ∧
      (owner = g ↔ ∃ front back, d.ordered = front ++ g :: back ∧
        ∀ g' ∈ front, g'.profile? t ≠ some p) ∧
      ((∀ g' ∈ d.ordered, g'.name = g.name → g'.address = g.address → g' = g) → owner = g) ∧
      ∀ arithmetic : Arithmetic,
        d.positionIn arithmetic p = arithmetic.answer d.isOrderInReach (some n) ∧
        d.selectForIn arithmetic n t none = arithmetic.answer d.isOrderInReach (some owner) := by
  intro d
  obtain ⟨ht, hname, haddress⟩ := of_profile? (mem_gateways_of_mem_ordered hg) hp
  have hfound : (d.ordered.find? fun g => decide (g.profile? t = some p)).isSome :=
    List.find?_isSome.2 ⟨g, hg, by simpa using hp⟩
  obtain ⟨owner, howner⟩ := Option.isSome_iff_exists.1 hfound
  have hback := bind_position d p
  rw [ht, howner] at hback
  obtain ⟨n, hposition, hselect⟩ := Option.bind_eq_some_iff.1 hback
  have hordered : owner ∈ d.ordered := List.mem_of_find?_eq_some howner
  have hprofile : owner.profile? t = some p := by simpa using List.find?_some howner
  refine ⟨n, owner, hposition, hselect, hordered, hprofile, ?_, fun hunique => ?_,
    fun arithmetic => ?_⟩
  · -- what is found is found where the order splits with no match in front
    rw [← Option.some_inj, ← howner, List.find?_eq_some_iff_append]
    simp [hp]
  · obtain ⟨-, hname', haddress'⟩ := of_profile? (mem_gateways_of_mem_ordered hordered) hprofile
    exact hunique owner hordered (hname'.symm.trans hname) (haddress'.symm.trans haddress)
  · rw [positionIn_eq, selectForIn_eq, hposition, hselect]
    exact ⟨rfl, rfl⟩

end Directory

/-! ### Two hosts with one address -/

namespace SharedAddress

/-- An entry with an address that does not depend on its host. -/
def entry (host : String) : Json := .object [("host", .text host),
  ("ip_address", .text "192.0.2.7"), ("location", .text "ams"),
  ("capabilities", .object [("ports", .array [.text "443"]), ("protocols", .array [.text "udp"])])]

def service : Service where
  gateways := [entry "a.example", entry "b.example"]
  locations := [("ams", .object [("name", .text "Amsterdam"), ("timezone", .text "+1")])]
  version := 1

def directory : Directory := .build { service } {} 1

/-- What is read from the first entry. -/
def published : GatewayEntry where
  host := "a.example"
  ipAddress := "192.0.2.7"
  ipAddress6 := ""
  location := "ams"
  capabilities := some (.object
    [("ports", .array [.text "443"]), ("protocols", .array [.text "udp"])])

def blueprint : Blueprint where
  general := []
  secrets := {}
  entry := published
  version := 1
  preferences := {}
  matrix := []

theorem pass_remotes : Statement.pass none (Blueprint.partLines (blueprint.remotes .openvpn)) =
    some ([⟨"remote", ["192.0.2.7", "443", "udp"]⟩].map .directive, none) := rfl

theorem exists_build : ∃ g : Gateway, g.host = "a.example" ∧
    Gateway.build service {} (entry "a.example") {} = .ok g ∧
    Gateway.build service {} (entry "b.example") {} = .ok { g with host := "b.example" } := by
  obtain ⟨p, hp, -⟩ := Blueprint.exists_profile_of_empty rfl rfl pass_remotes rfl rfl
  have hprofiles : blueprint.profiles = .ok ⟨p, none⟩ := by
    rw [Blueprint.profiles, hp]
    rfl
  have hentry : GatewayEntry.ofJson (entry "a.example") = .ok published := rfl
  have hentry' : GatewayEntry.ofJson (entry "b.example") =
      .ok (published.withHost "b.example") := rfl
  have hmake : Blueprint.make service.directives {} published service.version {} =
      .ok blueprint := rfl
  have hbuild := Gateway.build_eq_ok_iff.2 ⟨_, _, _, hentry, hmake, hprofiles, rfl⟩
  exact ⟨_, rfl, hbuild, Gateway.build_of_host hentry hentry' hbuild⟩

theorem exists_ordered : ∃ g g' : Gateway, directory.ordered = [g, g'] ∧
    g.host = "a.example" ∧ g'.host = "b.example" ∧
    ∃ p, g.profile? .openvpn = some p ∧ g'.profile? .openvpn = some p := by
  obtain ⟨g, hhost, hbuild, hbuild'⟩ := exists_build
  refine ⟨g, { g with host := "b.example" }, ?_, hhost, rfl, _, rfl, rfl⟩
  have hgateways : Directory.buildAll { service } {} = [g, { g with host := "b.example" }] := by
    have hof : Directory.gatewayOf? { service } {} (entry "a.example") = some g :=
      Directory.gatewayOf?_eq_some_iff.2 hbuild
    have hof' : Directory.gatewayOf? { service } {} (entry "b.example") =
        some { g with host := "b.example" } := Directory.gatewayOf?_eq_some_iff.2 hbuild'
    refine Directory.buildAll_of_nodup ?_ (by simp [hhost])
    exact congrArg₂ (fun a b => [a, b]) hof hof'
  have hranked : directory.ordered = rank 1 [g, { g with host := "b.example" }] := by
    rw [directory, Directory.build_eq, hgateways]
    rfl
  rw [hranked]
  exact rank_of_pairwise (by simp)

end SharedAddress

namespace Directory

/-- The profile of the first of two gateways leads back to it. -/
theorem position_owner_sharedAddress : ∃ g p, g ∈ SharedAddress.directory.ordered ∧
    g.host = "a.example" ∧ g.profile? .openvpn = some p ∧
    ∃ n, SharedAddress.directory.position p = some n ∧
      SharedAddress.directory.selectFor n .openvpn none = some g := by
  obtain ⟨g, g', hordered, hhost, -, p, hp, -⟩ := SharedAddress.exists_ordered
  have hg : g ∈ SharedAddress.directory.ordered := by
    rw [hordered]
    exact List.mem_cons_self
  obtain ⟨n, owner, hposition, hselect, -, -, hiff, -⟩ := position_owner hg hp
  obtain rfl : owner = g := hiff.2 ⟨[], [g'], hordered, List.forall_mem_nil _⟩
  exact ⟨owner, p, hg, hhost, hp, n, hposition, hselect⟩

/-- The profile of the second one leads to the first one. -/
theorem position_sharedAddress : ∃ g p, g ∈ SharedAddress.directory.ordered ∧
    g.host = "b.example" ∧ g.profile? .openvpn = some p ∧
    SharedAddress.directory.position p = some 0 ∧
    ∃ g', SharedAddress.directory.selectFor 0 .openvpn none = some g' ∧
      g'.host = "a.example" ∧ g' ≠ g := by
  obtain ⟨g, g', hordered, hhost, hhost', p, hp, hp'⟩ := SharedAddress.exists_ordered
  have hg' : g' ∈ SharedAddress.directory.ordered := by simp [hordered]
  have hoffered : SharedAddress.directory.offered .openvpn none = [g, g'] := by
    rw [offered, fitting, hordered]
    simp [Gateway.supports, hp, hp']
  have htransport : transportOf p = .openvpn :=
    (of_profile? (mem_gateways_of_mem_ordered hg') hp').1
  refine ⟨g', p, hg', hhost', hp', ?_, g, ?_, hhost, ?_⟩
  · rw [position]
    change (SharedAddress.directory.offered (transportOf p) none).findIdx?
      (fun g => decide (g.profile? (transportOf p) = some p)) = some 0
    rw [htransport, hoffered, List.findIdx?_cons, hp]
    simp
  · rw [selectFor, hoffered]
    rfl
  · rintro rfl
    rw [hhost] at hhost'
    exact absurd hhost' (by decide)

end Directory

end VpnDirectory
