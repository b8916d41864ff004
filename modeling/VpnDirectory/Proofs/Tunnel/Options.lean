import VpnDirectory.Proofs.Tunnel.Rendering

/-!
# What the obfuscation client is told

A profile for a pluggable transport takes options besides its text. They come of the first entry for
obfs4, or of a pinned bridge in its place.

* `TransportEntry.Announces` and `Pinning.Replaces` are the options of the bridge that a gateway
  announces and of a pinned one. `Blueprint.obfuscation_eq_ok_iff` : a pinning in force counts
  alone, whether it can be used or not.
* `Blueprint.profile_eq_ok_iff_of_isPluggable` : the options are found apart from the text, and
  there is a profile if the text is read and converted with them.
* `Blueprint.profiles_eq_ok_iff` : which profiles a gateway ends up with.
-/

namespace VpnDirectory

/-- The text is read without a fault, and becomes the profile. -/
def Config.ReadsAs (text : String) (options : Option ObfuscationOptions) (t : Transport)
    (p : Profile) : Prop :=
  ∃ c, feed {} text = (c, .ok ()) ∧ c.profile options t = .ok p

theorem Config.readsAs_iff {text : String} {options : Option ObfuscationOptions} {t : Transport}
    {p : Profile} : ReadsAs text options t p ↔ ∃ statements,
      Statement.pass none (Text.lines text.toList) = some (statements, none) ∧
        profile { statements.foldl add {} with text := text } options t = .ok p := by
  simp only [ReadsAs, feed_eq_ok_iff]
  constructor
  · rintro ⟨c, ⟨statements, hpass, rfl⟩, hp⟩
    exact ⟨statements, hpass, hp⟩
  · rintro ⟨statements, hpass, hp⟩
    exact ⟨_, ⟨statements, hpass, rfl⟩, hp⟩

/-- The options of the bridge that an entry of the matrix announces. -/
structure TransportEntry.Announces (e : TransportEntry) (entry : GatewayEntry)
    (o : ObfuscationOptions) : Prop where
  hasAddress : entry.ipAddress ≠ ""
  gatewayIp : o.gatewayIp = entry.ipAddress
  port : e.firstPort.bind Port.ofText? = some o.port
  cert : e.options.bind (·.cert) = some o.cert
  iatMode : e.options.bind (·.iatMode) = some o.iatMode
  usesKcp : o.usesKcp = false
  transport : o.transport = .obfs4

/-- The options of a pinned bridge, for which the gateway may announce a mode. -/
structure Pinning.Replaces (q : Pinning) (e : TransportEntry) (o : ObfuscationOptions) : Prop where
  gatewayIp : o.gatewayIp = q.ip
  port : Port.ofText? q.port = some o.port
  cert : o.cert = q.cert
  iatMode : o.iatMode = (e.options.bind (·.iatMode)).getD "0"
  usesKcp : o.usesKcp = q.usesKcp
  transport : o.transport = .obfs4

namespace Blueprint

variable {b : Blueprint} {o : ObfuscationOptions} {t : Transport} {p : Profile}

/-- The options of a pinned bridge are those whose port can be read. -/
theorem replaces_iff {q : Pinning} {e : TransportEntry} : q.Replaces e o ↔
    ∃ port, Port.ofText q.port = .ok port ∧
      ⟨q.ip, port, q.cert, (e.options.bind (·.iatMode)).getD "0", q.usesKcp, .obfs4⟩ = o := by
  constructor
  · rintro ⟨hip, hport, hcert, hiatMode, hkcp, htransport⟩
    refine ⟨o.port, Port.ofText_eq_ok_iff.2 hport, ?_⟩
    rw [← hip, ← hcert, ← hiatMode, ← hkcp, ← htransport]
  · rintro ⟨port, hport, rfl⟩
    exact ⟨rfl, Port.ofText_eq_ok_iff.1 hport, rfl, rfl, rfl, rfl⟩

/-- The options of an announced bridge are those of an entry with an address that has them all. -/
theorem announces_iff {e : TransportEntry} {entry : GatewayEntry} : e.Announces entry o ↔
    entry.ipAddress ≠ "" ∧ ∃ iatMode, e.options.bind (·.iatMode) = some iatMode ∧
      ∃ cert, e.options.bind (·.cert) = some cert ∧ ∃ s, e.firstPort = some s ∧
        ∃ port, Port.ofText s = .ok port ∧
          ⟨entry.ipAddress, port, cert, iatMode, false, .obfs4⟩ = o := by
  constructor
  · rintro ⟨haddress, hip, hport, hcert, hiatMode, hkcp, htransport⟩
    obtain ⟨s, hs, hport⟩ := Option.bind_eq_some_iff.1 hport
    refine ⟨haddress, _, hiatMode, _, hcert, s, hs, o.port, Port.ofText_eq_ok_iff.2 hport, ?_⟩
    rw [← hip, ← hkcp, ← htransport]
  · rintro ⟨haddress, iatMode, hiatMode, cert, hcert, s, hs, port, hport, rfl⟩
    refine ⟨haddress, rfl, ?_, hcert, hiatMode, rfl, rfl⟩
    rw [hs, Option.bind_some, ← Port.ofText_eq_ok_iff, hport]

/-- What the obfuscation client is told: of the pinned bridge if a pinning is in force, and
otherwise of the one that the first entry for obfs4 announces. -/
theorem obfuscation_eq_ok_iff : b.obfuscation = .ok o ↔
    ∃ e, b.entryFor? .obfs4 = some e ∧
      ((∃ q, b.preferences.activePinning = some q ∧ q.Replaces e o) ∨
        b.preferences.activePinning = none ∧ e.Announces b.entry o) := by
  rw [obfuscation]
  cases he : b.entryFor? .obfs4 with
  | none => simp
  | some e =>
    have hiatMode : (e.options.getD {}).iatMode = e.options.bind (·.iatMode) := by
      cases e.options <;> rfl
    have hcert : (e.options.getD {}).cert = e.options.bind (·.cert) := by
      cases e.options <;> rfl
    cases hq : b.preferences.activePinning with
    | some q =>
      dsimp only
      rw [bind_eq_ok_iff, hiatMode]
      simp [replaces_iff, pure, Except.pure]
    | none =>
      dsimp only
      rw [hiatMode, hcert]
      simp only [reduceCtorEq, false_and, exists_false, true_and, false_or, Option.some.injEq,
        exists_eq_left', announces_iff]
      by_cases haddress : b.entry.ipAddress = ""
      · rw [if_pos haddress]
        exact iff_of_false nofun fun h => h.1 haddress
      · rw [if_neg haddress]
        cases e.options.bind (·.iatMode) with
        | none => simp
        | some iatMode =>
          cases e.options.bind (·.cert) with
          | none => simp
          | some cert =>
            cases e.firstPort with
            | none => simp
            | some s =>
              dsimp only
              rw [bind_eq_ok_iff]
              simp [haddress, pure, Except.pure]

/-- The options are always for obfs4 with fixed ports. -/
theorem transport_of_obfuscation (h : b.obfuscation = .ok o) : o.transport = .obfs4 := by
  obtain ⟨e, -, ⟨q, -, hreplaces⟩ | ⟨-, hannounces⟩⟩ := obfuscation_eq_ok_iff.1 h
  · exact hreplaces.transport
  · exact hannounces.transport

/-- There is a pluggable profile when there are options and the text becomes the profile with
them. -/
theorem profile_eq_ok_iff_of_isPluggable (ht : t.isPluggable) : b.profile t = .ok p ↔
    ∃ o, b.obfuscation = .ok o ∧ Config.ReadsAs (b.text t) (some o) t p := by
  have hoptions (options : Option ObfuscationOptions) :
      b.optionsFor t = .ok options ↔ ∃ o, b.obfuscation = .ok o ∧ some o = options := by
    rw [optionsFor, if_pos ht]
    cases b.obfuscation <;> simp
  simp only [profile_eq_ok_iff, hoptions, Config.readsAs_iff]
  constructor
  · rintro ⟨statements, -, hpass, ⟨o, ho, rfl⟩, hp⟩
    exact ⟨o, ho, statements, hpass, hp⟩
  · rintro ⟨o, ho, statements, hpass, hp⟩
    exact ⟨statements, some o, hpass, ⟨o, ho, rfl⟩, hp⟩

/-- There is a profile for obfs4 if it can be drawn up, and only the one for plain OpenVPN has to
be. -/
theorem profiles_eq_ok_iff {openvpn : Profile} {obfs4 : Option Profile} :
    b.profiles = .ok ⟨openvpn, obfs4⟩ ↔
      b.profile .openvpn = .ok openvpn ∧ (b.profile .obfs4).toOption = obfs4 := by
  -- without an entry for obfs4 it cannot be drawn up
  have hobfs4 : (if b.announcesObfs4 then (b.profile .obfs4).toOption else none) =
      (b.profile .obfs4).toOption := by
    rw [ite_eq_left_iff]
    intro hannounces
    symm
    rw [Option.eq_none_iff_forall_ne_some]
    intro p hp
    obtain ⟨o, ho, -⟩ := (profile_eq_ok_iff_of_isPluggable (by decide)).1
      (toOption_eq_some_iff.1 hp)
    obtain ⟨e, he, -⟩ := obfuscation_eq_ok_iff.1 ho
    exact hannounces (Option.isSome_of_eq_some he)
  simp only [profiles, hobfs4, bind_eq_ok_iff, Except.ok.injEq, Profiles.mk.injEq]
  constructor
  · rintro ⟨p, hp, rfl, hps⟩
    exact ⟨hp, hps⟩
  · rintro ⟨hp, hps⟩
    exact ⟨openvpn, hp, rfl, hps⟩

/-- Every profile of a gateway is read back from the text for its transport. -/
theorem profile_of_profiles {ps : Profiles} (h : b.profiles = .ok ps) (hp : ps.get? t = some p) :
    b.profile t = .ok p := by
  obtain ⟨openvpn, obfs4⟩ := ps
  obtain ⟨hopenvpn, hobfs4⟩ := profiles_eq_ok_iff.1 h
  cases t with
  | openvpn =>
    cases hp
    exact hopenvpn
  | obfs4 => exact toOption_eq_some_iff.1 (hobfs4.trans hp)
  | obfs4Hop => cases hp

end Blueprint

end VpnDirectory
