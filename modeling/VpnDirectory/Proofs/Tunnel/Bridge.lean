import VpnDirectory.Proofs.Tunnel.Obfuscation

/-!
# Bridges

A pluggable profile has one connection, to a bridge through the local obfuscation client.

* `Profile.IsWiredFor` : options and connection are those of the profile's own transport.
  `Config.isWiredFor_iff` : this is up to the options that a configuration is given.
* `Blueprint.profile_obfs4Hop` : with changing ports there is the same profile as without, but for
  its name. `Blueprint.wiring_of_profile` : only profiles for obfs4 are wired for their transport.
-/

namespace VpnDirectory

/-- The connection to a bridge over a transport. With changing ports it is UDP to a proxy of its
own. -/
def Transport.dial (o : ObfuscationOptions) : Transport → Connection
  | .obfs4Hop => ⟨o.gatewayIp, o.port, true, some ⟨"127.0.0.1", 8080⟩⟩
  | _ => ⟨o.gatewayIp, o.port, o.usesKcp, some ⟨"127.0.0.1", 4430⟩⟩

theorem Connection.obfuscated_eq (o : ObfuscationOptions) :
    obfuscated o = o.transport.dial o := by
  unfold obfuscated
  cases o.transport <;> rfl

/-- Do the options and the connection of the profile fit its own transport? -/
def Profile.IsWiredFor (p : Profile) (t : Transport) : Prop :=
  p.transport = t ∧ ∃ o, p.options = some o ∧ o.transport = t ∧ p.connections = [t.dial o]

namespace Config

variable {c : Config} {o : ObfuscationOptions} {t : Transport} {p : Profile}

/-- What a pluggable profile takes of the options that its configuration is given. -/
theorem profile_bridge (ht : t.isPluggable) (hp : c.profile (some o) t = .ok p) :
    p.transport = t ∧ p.options = some o ∧ p.connections = [o.transport.dial o] := by
  obtain ⟨d, q, -, -, -, rfl⟩ := profile_eq_ok_iff.1 hp
  simp [ht, Connection.obfuscated_eq]

/-- A pluggable profile is wired for its transport exactly when the options are. -/
theorem isWiredFor_iff (ht : t.isPluggable) (hp : c.profile (some o) t = .ok p) :
    p.IsWiredFor t ↔ o.transport = t := by
  obtain ⟨htransport, hoptions, hconnections⟩ := profile_bridge ht hp
  constructor
  · rintro ⟨-, o', ho', hwired, -⟩
    obtain rfl : o = o' := Option.some.inj (hoptions.symm.trans ho')
    exact hwired
  · rintro rfl
    exact ⟨htransport, o, hoptions, rfl, hconnections⟩

/-- With the same options, changing ports make no other difference than to the name of the
transport. -/
theorem profile_obfs4Hop (c : Config) (o : ObfuscationOptions) :
    c.profile (some o) .obfs4Hop =
      (c.profile (some o) .obfs4).map fun p => { p with transport := .obfs4Hop } := by
  unfold profile
  cases defaults c.directives with
  | error e => rfl
  | ok d => cases hparts : parts d c.directives <;> simp [hparts, Transport.isPluggable, Except.map]

end Config

namespace Blueprint

variable {b : Blueprint} {o : ObfuscationOptions} {t : Transport} {p : Profile}

/-- The text with changing ports is the one without. -/
theorem text_obfs4Hop (b : Blueprint) : b.text .obfs4Hop = b.text .obfs4 := rfl

/-- A gateway has the same profile with changing ports as without, under another name. -/
theorem profile_obfs4Hop (b : Blueprint) :
    b.profile .obfs4Hop = (b.profile .obfs4).map fun p => { p with transport := .obfs4Hop } := by
  unfold profile
  rw [text_obfs4Hop]
  rcases Config.feed {} (b.text .obfs4) with ⟨c, e | ⟨⟩⟩
  · rfl
  · cases hoptions : b.obfuscation with
    | error e => rfl
    | ok o => exact Config.profile_obfs4Hop c o

/-- Of the profiles of a gateway, only those for obfs4 are wired for their transport. -/
theorem isWiredFor_iff (ht : t.isPluggable) (hp : b.profile t = .ok p) :
    p.IsWiredFor t ↔ t = .obfs4 := by
  obtain ⟨o, ho, c, -, hc⟩ := (profile_eq_ok_iff_of_isPluggable ht).1 hp
  rw [Config.isWiredFor_iff ht hc, transport_of_obfuscation ho, eq_comm]

/-- Every pluggable profile is the one for obfs4, but for the name of its transport. -/
theorem exists_profile_obfs4 (ht : t.isPluggable) (hp : b.profile t = .ok p) :
    ∃ q, b.profile .obfs4 = .ok q ∧ p = { q with transport := t } := by
  cases t with
  | openvpn => cases ht
  | obfs4 => exact ⟨p, hp, by rw [← (transport_of_profile hp).1]⟩
  | obfs4Hop =>
    rw [profile_obfs4Hop] at hp
    cases hq : b.profile .obfs4 with
    | error e =>
      rw [hq] at hp
      cases hp
    | ok q =>
      rw [hq] at hp
      cases hp
      exact ⟨q, rfl, rfl⟩

/-- A pluggable profile has the options and the connection of obfs4 with fixed ports, whatever its
transport is: it is wired for its own transport exactly when that is obfs4, and otherwise it is the
profile for obfs4 under another name. -/
theorem wiring_of_profile (ht : t.isPluggable) (hp : b.profile t = .ok p) :
    (p.IsWiredFor t ↔ t = .obfs4) ∧
      (∃ o, b.obfuscation = .ok o ∧ p.options = some o ∧ o.transport = .obfs4 ∧
        p.transport = t ∧ p.connections = [Transport.obfs4.dial o]) ∧
      ∃ q, b.profile .obfs4 = .ok q ∧ q.IsWiredFor .obfs4 ∧ p = { q with transport := t } := by
  obtain ⟨o, ho, c, -, hc⟩ := (profile_eq_ok_iff_of_isPluggable ht).1 hp
  have hobfs4 : o.transport = .obfs4 := transport_of_obfuscation ho
  obtain ⟨htransport, hoptions, hconnections⟩ := Config.profile_bridge ht hc
  rw [hobfs4] at hconnections
  obtain ⟨q, hq, heq⟩ := exists_profile_obfs4 ht hp
  have hwired : q.IsWiredFor .obfs4 := (isWiredFor_iff (by decide) hq).2 rfl
  exact ⟨isWiredFor_iff ht hp, ⟨o, ho, hoptions, hobfs4, htransport, hconnections⟩, q, hq, hwired,
    heq⟩

/-- The pinned bridge is dialled through the proxy of obfs4. -/
theorem wiring_of_profile_pinned : Transport.isPluggable .obfs4 ∧
    ∃ p, (PinnedBridge.blueprint "tcp" "443").profile .obfs4 = .ok p ∧ p.IsWiredFor .obfs4 := by
  obtain ⟨p, hp⟩ := PinnedBridge.exists_profile "tcp" "443" (by decide)
  have hpluggable : Transport.isPluggable .obfs4 := by decide
  exact ⟨hpluggable, p, hp, (wiring_of_profile hpluggable hp).1.2 rfl⟩

/-- With changing ports the same bridge is dialled through the same proxy. -/
theorem not_isWiredFor_pinned : ∃ p,
    make [] {} (PinnedBridge.entry "tcp" "443") 3 PinnedBridge.preferences =
        .ok (PinnedBridge.blueprint "tcp" "443") ∧
      (PinnedBridge.blueprint "tcp" "443").profile .obfs4Hop = .ok p ∧ p.transport = .obfs4Hop ∧
      p.options = some ⟨"2001:db8::1", 443, "CERT", "0", false, .obfs4⟩ ∧
      p.connections = [⟨"2001:db8::1", 443, false, some ⟨"127.0.0.1", 4430⟩⟩] ∧
      ¬ p.IsWiredFor .obfs4Hop := by
  obtain ⟨p, hp⟩ : ∃ p, (PinnedBridge.blueprint "tcp" "443").profile .obfs4Hop = .ok p := by
    obtain ⟨q, hq⟩ := PinnedBridge.exists_profile "tcp" "443" (by decide)
    exact ⟨_, by rw [profile_obfs4Hop, hq]; rfl⟩
  obtain ⟨o, ho, c, -, hc⟩ := (profile_eq_ok_iff_of_isPluggable (by decide)).1 hp
  obtain ⟨htransport, hoptions, hconnections⟩ := Config.profile_bridge (by decide) hc
  obtain rfl : ⟨"2001:db8::1", 443, "CERT", "0", false, .obfs4⟩ = o := Except.ok.inj ho
  refine ⟨p, PinnedBridge.make_entry "tcp" "443", hp, htransport, hoptions, hconnections, ?_⟩
  rw [Config.isWiredFor_iff (by decide) hc]
  decide

end Blueprint

end VpnDirectory
