import VpnDirectory.Proofs.Gateway

/-!
# The transports of a gateway

A gateway cannot do without its profile for plain OpenVPN, while the one for obfs4 is left out if
anything is missing for it.

* `Gateway.exists_build_iff` and `Gateway.supports_obfs4_iff` : when there is a gateway at all, and
  when it has a profile for obfs4. `Blueprint.exists_profile_obfs4_iff` : what this takes.
* `Blueprint.profile_openvpn_withMatrix` : plain OpenVPN takes nothing from a matrix but the first
  entry for it.
* `Gateway.obfs4_fails_alone` : all of this for every entry. What is not for plain OpenVPN in a
  matrix makes no difference to the rest of a gateway.
-/

namespace VpnDirectory

/-- What the profiles of an entry are drawn up from, if this is its matrix. -/
def Service.blueprint (service : Service) (secrets : Secrets) (entry : GatewayEntry)
    (preferences : Preferences) (matrix : List TransportEntry) : Blueprint :=
  ⟨service.directives, secrets, entry, service.version, preferences, matrix⟩

namespace Blueprint

variable {b : Blueprint}

/-- A readable matrix is what counts. -/
theorem make_of_matrix {service : Service} {entry : GatewayEntry} {matrix : List TransportEntry}
    (hversion : matrixVersion ≤ service.version) (hmatrix : entry.matrix = .ok matrix)
    (secrets : Secrets) (preferences : Preferences) :
    make service.directives secrets entry service.version preferences =
      .ok (service.blueprint secrets entry preferences matrix) :=
  make_eq_ok_iff.2 ⟨matrix, by rwa [if_pos hversion], rfl⟩

/-- When there is a profile for obfs4: the text and the options come of the same matrix, and fit. -/
theorem exists_profile_obfs4_iff {service : Service} {secrets : Secrets} {entry : GatewayEntry}
    {preferences : Preferences} :
    (∃ b p, make service.directives secrets entry service.version preferences = .ok b ∧
      b.profile .obfs4 = .ok p) ↔
    matrixVersion ≤ service.version ∧ ∃ matrix e o p, entry.matrix = .ok matrix ∧
      matrix.find? (·.isFor .obfs4) = some e ∧
      ((∃ q, preferences.activePinning = some q ∧ q.Replaces e o) ∨
        preferences.activePinning = none ∧ e.Announces entry o) ∧
      Config.ReadsAs ((service.blueprint secrets entry preferences matrix).text .obfs4) (some o)
        .obfs4 p := by
  constructor
  · rintro ⟨b, p, hmake, hp⟩
    obtain ⟨o, ho, hreads⟩ := (profile_eq_ok_iff_of_isPluggable (by decide)).1 hp
    obtain ⟨e, he, hoptions⟩ := obfuscation_eq_ok_iff.1 ho
    obtain ⟨matrix, hmatrix, rfl⟩ := make_eq_ok_iff.1 hmake
    by_cases hversion : matrixVersion ≤ service.version
    · rw [if_pos hversion] at hmatrix
      exact ⟨hversion, matrix, e, o, p, hmatrix, he, hoptions, hreads⟩
    · -- without a matrix there is no entry for obfs4
      rw [if_neg hversion] at hmatrix
      subst hmatrix
      cases he
  · rintro ⟨hversion, matrix, e, o, p, hmatrix, he, hoptions, hreads⟩
    have ho : (service.blueprint secrets entry preferences matrix).obfuscation = .ok o :=
      obfuscation_eq_ok_iff.2 ⟨e, he, hoptions⟩
    exact ⟨_, p, make_of_matrix hversion hmatrix secrets preferences,
      (profile_eq_ok_iff_of_isPluggable (by decide)).2 ⟨o, ho, hreads⟩⟩

/-- The blueprint with other capabilities. -/
def withMatrix (b : Blueprint) (capabilities : Option Json) (matrix : List TransportEntry) :
    Blueprint :=
  { b with entry := { b.entry with capabilities }, matrix }

/-- Plain OpenVPN takes nothing from a matrix but the first entry for it. -/
theorem profile_openvpn_withMatrix {capabilities : Option Json} {matrix : List TransportEntry}
    (hversion : matrixVersion ≤ b.version)
    (h : matrix.find? (·.isFor .openvpn) = b.entryFor? .openvpn) :
    (b.withMatrix capabilities matrix).profile .openvpn = b.profile .openvpn := by
  have hentry : (b.withMatrix capabilities matrix).entryFor? .openvpn = b.entryFor? .openvpn := h
  have htext : (b.withMatrix capabilities matrix).text .openvpn = b.text .openvpn := by
    unfold text
    rw [remotes_openvpn_of_matrix hversion,
      remotes_openvpn_of_matrix (b := b.withMatrix capabilities matrix) hversion]
    unfold openvpnRemotes
    rw [hentry]
    rfl
  unfold profile
  rw [htext]
  rfl

end Blueprint

namespace Gateway

variable {service : Service} {secrets : Secrets} {preferences : Preferences} {item item' : Json}
  {entry : GatewayEntry} {g : Gateway}

/-- The gateway without its profile for obfs4. -/
def withoutObfs4 (g : Gateway) : Gateway := { g with profiles := { g.profiles with obfs4 := none } }

/-- Making a gateway fails with its profile for plain OpenVPN, and takes nothing else of the
blueprint but the profile for obfs4. -/
theorem map_withoutObfs4_build {b : Blueprint} (hentry : GatewayEntry.ofJson item = .ok entry)
    (hmake : Blueprint.make service.directives secrets entry service.version preferences = .ok b) :
    (build service secrets item preferences).map withoutObfs4 =
      ((b.profile .openvpn).mapError .config).map fun p => {
        name := (service.location entry.location).name
        host := entry.host
        address := entry.ipAddress
        timezone := (service.location entry.location).timezone
        version := service.version
        profiles := ⟨{ p with
          name := (service.location entry.location).name
          gatewayIp := entry.ipAddress
          excludedApps := preferences.excludedApps }, none⟩ } := by
  have hentryOk : (GatewayEntry.ofJson item).mapError GatewayError.entry = .ok entry :=
    mapError_eq_ok_iff.2 hentry
  have hmakeOk : (Blueprint.make service.directives secrets entry service.version
      preferences).mapError GatewayError.config = .ok b := mapError_eq_ok_iff.2 hmake
  simp only [build, hentryOk, hmakeOk, ok_bind, Blueprint.profiles]
  cases b.profile .openvpn with
  | error e => rfl
  | ok p => rfl

/-- An entry gives a gateway exactly when there is a profile for plain OpenVPN. -/
theorem exists_build_iff : (∃ g, build service secrets item preferences = .ok g) ↔
    ∃ entry b p, GatewayEntry.ofJson item = .ok entry ∧
      Blueprint.make service.directives secrets entry service.version preferences = .ok b ∧
      b.profile .openvpn = .ok p := by
  constructor
  · rintro ⟨g, hg⟩
    obtain ⟨entry, b, ⟨p, obfs4⟩, hentry, hmake, hprofiles, -⟩ := build_eq_ok_iff.1 hg
    exact ⟨entry, b, p, hentry, hmake, (Blueprint.profiles_eq_ok_iff.1 hprofiles).1⟩
  · rintro ⟨entry, b, p, hentry, hmake, hp⟩
    have hprofiles := Blueprint.profiles_eq_ok_iff.2 ⟨hp, rfl⟩
    exact ⟨_, build_eq_ok_iff.2 ⟨entry, b, _, hentry, hmake, hprofiles, rfl⟩⟩

/-- An entry with other capabilities gives the same gateway but for obfs4, as long as the first
entry for plain OpenVPN is the same in its matrix. -/
theorem map_withoutObfs4_build_congr {capabilities : Option Json}
    {matrix matrix' : List TransportEntry} (hversion : Blueprint.matrixVersion ≤ service.version)
    (hentry : GatewayEntry.ofJson item = .ok entry)
    (hentry' : GatewayEntry.ofJson item' = .ok { entry with capabilities })
    (hmatrix : entry.matrix = .ok matrix)
    (hmatrix' : GatewayEntry.matrix { entry with capabilities } = .ok matrix')
    (h : matrix'.find? (·.isFor .openvpn) = matrix.find? (·.isFor .openvpn)) :
    (build service secrets item' preferences).map withoutObfs4 =
      (build service secrets item preferences).map withoutObfs4 := by
  have hmake := Blueprint.make_of_matrix hversion hmatrix secrets preferences
  have hmake' := Blueprint.make_of_matrix hversion hmatrix' secrets preferences
  have hprofile :
      (service.blueprint secrets { entry with capabilities } preferences matrix').profile .openvpn =
        (service.blueprint secrets entry preferences matrix).profile .openvpn :=
    Blueprint.profile_openvpn_withMatrix (b := service.blueprint secrets entry preferences matrix)
      hversion h
  rw [map_withoutObfs4_build hentry' hmake', map_withoutObfs4_build hentry hmake, hprofile]

/-- A gateway has a profile for obfs4 exactly when it can be drawn up from the entry. -/
theorem supports_obfs4_iff (h : build service secrets item preferences = .ok g) :
    g.supports .obfs4 ↔ ∃ entry, GatewayEntry.ofJson item = .ok entry ∧ ∃ b p,
      Blueprint.make service.directives secrets entry service.version preferences = .ok b ∧
        b.profile .obfs4 = .ok p := by
  obtain ⟨entry, b, ⟨openvpn, obfs4⟩, hentry, hmake, hprofiles, rfl⟩ := build_eq_ok_iff.1 h
  obtain ⟨-, hobfs4⟩ := Blueprint.profiles_eq_ok_iff.1 hprofiles
  rw [supports, profile?, Profiles.get?_map, Option.isSome_map, Profiles.get?, ← hobfs4,
    Option.isSome_iff_exists]
  simp only [toOption_eq_some_iff]
  constructor
  · rintro ⟨p, hp⟩
    exact ⟨entry, hentry, b, p, hmake, hp⟩
  · rintro ⟨entry', hentry', b', p, hmake', hp⟩
    obtain rfl : entry = entry' := Except.ok.inj (hentry.symm.trans hentry')
    obtain rfl : b = b' := Except.ok.inj (hmake.symm.trans hmake')
    exact ⟨p, hp⟩

/-- Obfuscation fails alone. A gateway has a profile for obfs4 exactly when there is a matrix with
an entry for it, the options are complete, those of the pinned bridge if a pinning is in force and
those of the announced one otherwise, and the text can be read and converted with them. Whatever
else a matrix holds besides its entries for plain OpenVPN, the rest of the gateway is the same, or
there is none for the same reason. -/
theorem obfs4_fails_alone (service : Service) (secrets : Secrets) (preferences : Preferences) :
    (∀ {item : Json} {g : Gateway}, build service secrets item preferences = .ok g →
      (g.supports .obfs4 ↔ 3 ≤ service.version ∧ ∃ entry matrix e o p,
        GatewayEntry.ofJson item = .ok entry ∧ entry.matrix = .ok matrix ∧
          matrix.find? (·.isFor .obfs4) = some e ∧
          ((∃ q, preferences.activePinning = some q ∧ q.Replaces e o) ∨
            preferences.activePinning = none ∧ e.Announces entry o) ∧
          Config.ReadsAs ((service.blueprint secrets entry preferences matrix).text .obfs4)
            (some o) .obfs4 p)) ∧
      ∀ {item item' : Json} {entry : GatewayEntry} {capabilities : Option Json}
        {matrix matrix' : List TransportEntry}, 3 ≤ service.version →
        GatewayEntry.ofJson item = .ok entry →
        GatewayEntry.ofJson item' = .ok { entry with capabilities } →
        entry.matrix = .ok matrix → Capability.matrix capabilities = .ok matrix' →
        matrix'.filter (·.isFor .openvpn) = matrix.filter (·.isFor .openvpn) →
        (build service secrets item' preferences).map withoutObfs4 =
          (build service secrets item preferences).map withoutObfs4 := by
  refine ⟨fun hbuild => ?_, fun hversion hentry hentry' hmatrix hmatrix' h => ?_⟩
  · rw [supports_obfs4_iff hbuild]
    simp only [Blueprint.exists_profile_obfs4_iff]
    constructor
    · rintro ⟨entry, hentry, hversion, matrix, e, o, p, h⟩
      exact ⟨hversion, entry, matrix, e, o, p, hentry, h⟩
    · rintro ⟨hversion, entry, matrix, e, o, p, hentry, h⟩
      exact ⟨entry, hentry, hversion, matrix, e, o, p, h⟩
  · refine map_withoutObfs4_build_congr hversion hentry hentry' hmatrix hmatrix' ?_
    rw [← List.head?_filter, h, List.head?_filter]

end Gateway

/-! ### A bridge that is reached over UDP -/

namespace UdpBridge

def plain : Json := .object [("type", .text "openvpn"), ("protocols", .array [.text "udp"]),
  ("ports", .array [.text "1194"])]

/-- An entry with all options, but without TCP, so that the text names no remote. -/
def bridge : Json := .object [("type", .text "obfs4"), ("protocols", .array [.text "udp"]),
  ("ports", .array [.text "23050"]),
  ("options", .object [("cert", .text "CERT"), ("iatMode", .text "1")])]

def capabilities (transports : List Json) : Option Json :=
  some (.object [("transport", .array transports)])

def item (transports : List Json) : Json := .object [("host", .text "a.example"),
  ("ip_address", .text "192.0.2.7"), ("capabilities", .object [("transport", .array transports)])]

/-- What is read from the item. -/
def entry (transports : List Json) : GatewayEntry where
  host := "a.example"
  ipAddress := "192.0.2.7"
  ipAddress6 := ""
  location := ""
  capabilities := capabilities transports

def plainEntry : TransportEntry := ⟨some .openvpn, ["udp"], ["1194"], none⟩

def bridgeEntry : TransportEntry := ⟨some .obfs4, ["udp"], ["23050"], some ⟨some "CERT", some "1"⟩⟩

def options : ObfuscationOptions := ⟨"192.0.2.7", 23050, "CERT", "1", false, .obfs4⟩

def service : Service where
  version := 3

def blueprint (preferences : Preferences) : Blueprint :=
  service.blueprint {} (entry [plain, bridge]) preferences [plainEntry, bridgeEntry]

theorem announces_bridgeEntry (transports : List Json) :
    bridgeEntry.Announces (entry transports) options := by
  refine ⟨?_, rfl, rfl, rfl, rfl, rfl, rfl⟩
  show "192.0.2.7" ≠ ""
  decide

theorem exists_readsAs (preferences : Preferences) : ∃ p,
    Config.ReadsAs ((blueprint preferences).text .obfs4) (some options) .obfs4 p := by
  have he : (blueprint preferences).entryFor? .obfs4 = some bridgeEntry := rfl
  have hversion : ¬ (blueprint preferences).version < Blueprint.matrixVersion := Int.lt_irrefl 3
  have hnone : (blueprint preferences).remotes .obfs4 = [] := by
    rw [Blueprint.remotes, if_neg hversion, if_pos (by decide), Blueprint.obfs4Remotes, he]
    dsimp only
    split
    · exact if_neg (by decide)
    · rfl
  have hremotes := Blueprint.pass_of_remotes_eq_nil hnone
  exact ⟨_, Config.readsAs_iff.2 ⟨_, Blueprint.pass_text_of_empty rfl rfl hremotes, rfl⟩⟩

/-- The gateway can be made with any preferences that leave the order of protocols as it is. -/
theorem exists_build (preferences : Preferences) (h : preferences.prefersUdp = false) :
    ∃ g, Gateway.build service {} (item [plain, bridge]) preferences = .ok g := by
  have he : (blueprint preferences).entryFor? .openvpn = some plainEntry := rfl
  have hversion : ¬ (blueprint preferences).version < Blueprint.matrixVersion := Int.lt_irrefl 3
  have hprefersUdp : (blueprint preferences).preferences.prefersUdp = false := h
  have hlines : (blueprint preferences).remotes .openvpn = ["remote 192.0.2.7 1194 udp"] := by
    rw [Blueprint.remotes, if_neg hversion, if_neg (by decide), Blueprint.openvpnRemotes, he]
    simp only [hprefersUdp]
    rfl
  have hremotes : Statement.pass none
      (Blueprint.partLines ((blueprint preferences).remotes .openvpn)) =
        some ([⟨"remote", ["192.0.2.7", "1194", "udp"]⟩].map .directive, none) := by
    rw [hlines]
    rfl
  obtain ⟨p, hp, -⟩ := Blueprint.exists_profile_of_empty rfl rfl hremotes rfl rfl
  have hentry : GatewayEntry.ofJson (item [plain, bridge]) = .ok (entry [plain, bridge]) := rfl
  have hmake : Blueprint.make service.directives {} (entry [plain, bridge]) service.version
      preferences = .ok (blueprint preferences) := rfl
  exact Gateway.exists_build_iff.2 ⟨_, _, p, hentry, hmake, hp⟩

/-- A pinning whose port is none. -/
def unusable : Preferences where
  dialsBridges := true
  pinning := some { ip := "192.0.2.9", port := "http", cert := "CERT" }

end UdpBridge

namespace Gateway

/-- Without its entry for obfs4, the gateway has the same profile for plain OpenVPN and no other. -/
theorem obfs4_fails_alone_udpBridge : ∃ g g',
    build UdpBridge.service {} (UdpBridge.item [UdpBridge.plain, UdpBridge.bridge]) {} = .ok g ∧
      build UdpBridge.service {} (UdpBridge.item [UdpBridge.plain]) {} = .ok g' ∧
      g.supports .obfs4 ∧ ¬ g'.supports .obfs4 ∧ g'.profile? .openvpn = g.profile? .openvpn := by
  obtain ⟨g, hg⟩ := UdpBridge.exists_build {} rfl
  obtain ⟨hsupports, hrest⟩ := obfs4_fails_alone UdpBridge.service {} {}
  have hentry : GatewayEntry.ofJson (UdpBridge.item [UdpBridge.plain, UdpBridge.bridge]) =
      .ok (UdpBridge.entry [UdpBridge.plain, UdpBridge.bridge]) := rfl
  have hentry' : GatewayEntry.ofJson (UdpBridge.item [UdpBridge.plain]) =
      .ok { UdpBridge.entry [UdpBridge.plain, UdpBridge.bridge] with
        capabilities := UdpBridge.capabilities [UdpBridge.plain] } := rfl
  have hmatrix : Capability.matrix (UdpBridge.capabilities [UdpBridge.plain, UdpBridge.bridge]) =
      .ok [UdpBridge.plainEntry, UdpBridge.bridgeEntry] := rfl
  have hmatrix' : Capability.matrix (UdpBridge.capabilities [UdpBridge.plain]) =
      .ok [UdpBridge.plainEntry] := rfl
  have hsame := hrest (Int.le_refl 3) hentry hentry' hmatrix hmatrix' rfl
  rw [hg] at hsame
  obtain ⟨g', hg', hplain⟩ : ∃ g',
      build UdpBridge.service {} (UdpBridge.item [UdpBridge.plain]) {} = .ok g' ∧
        g'.withoutObfs4 = g.withoutObfs4 := by
    cases hbuild : build UdpBridge.service {} (UdpBridge.item [UdpBridge.plain]) {} with
    | error e =>
      rw [hbuild] at hsame
      cases hsame
    | ok g' =>
      rw [hbuild] at hsame
      exact ⟨g', rfl, Except.ok.inj hsame⟩
  refine ⟨g, g', hg, hg', ?_, fun h => ?_, ?_⟩
  · obtain ⟨p, hp⟩ := UdpBridge.exists_readsAs {}
    exact (hsupports hg).2 ⟨Int.le_refl 3, _, _, _, _, p, hentry, hmatrix, rfl,
      .inr ⟨rfl, UdpBridge.announces_bridgeEntry _⟩, hp⟩
  · obtain ⟨-, entry, matrix, e, o, p, hentry', hmatrix', he, -⟩ := (hsupports hg').1 h
    cases hentry'
    cases hmatrix'
    cases he
  · exact congrArg (fun g => g.profile? .openvpn) hplain

/-- A pinning that cannot be used leaves no profile for obfs4, although the gateway announces all
options and the text can be read and converted with these. -/
theorem obfs4_unusablePinning : ∃ g p,
    build UdpBridge.service {} (UdpBridge.item [UdpBridge.plain, UdpBridge.bridge])
        UdpBridge.unusable = .ok g ∧
      3 ≤ UdpBridge.service.version ∧
      GatewayEntry.ofJson (UdpBridge.item [UdpBridge.plain, UdpBridge.bridge]) =
        .ok (UdpBridge.entry [UdpBridge.plain, UdpBridge.bridge]) ∧
      (UdpBridge.entry [UdpBridge.plain, UdpBridge.bridge]).matrix =
        .ok [UdpBridge.plainEntry, UdpBridge.bridgeEntry] ∧
      [UdpBridge.plainEntry, UdpBridge.bridgeEntry].find? (·.isFor .obfs4) =
        some UdpBridge.bridgeEntry ∧
      UdpBridge.bridgeEntry.Announces (UdpBridge.entry [UdpBridge.plain, UdpBridge.bridge])
        UdpBridge.options ∧
      Config.ReadsAs ((UdpBridge.blueprint UdpBridge.unusable).text .obfs4)
        (some UdpBridge.options) .obfs4 p ∧
      ¬ g.supports .obfs4 := by
  obtain ⟨g, hg⟩ := UdpBridge.exists_build UdpBridge.unusable rfl
  obtain ⟨p, hp⟩ := UdpBridge.exists_readsAs UdpBridge.unusable
  refine ⟨g, p, hg, Int.le_refl 3, rfl, rfl, rfl, UdpBridge.announces_bridgeEntry _, hp, ?_⟩
  rw [supports_obfs4_iff hg]
  rintro ⟨entry, hentry, b, p', hmake, hp'⟩
  cases hentry
  obtain rfl : UdpBridge.blueprint UdpBridge.unusable = b := Except.ok.inj hmake
  obtain ⟨o, ho, -⟩ := (Blueprint.profile_eq_ok_iff_of_isPluggable (by decide)).1 hp'
  cases ho

end Gateway

end VpnDirectory
