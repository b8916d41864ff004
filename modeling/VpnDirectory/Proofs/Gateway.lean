import VpnDirectory.Gateway
import VpnDirectory.Proofs.Fallible
import VpnDirectory.Proofs.Tunnel.Options

/-!
# Making gateways

`Gateway.build_eq_ok_iff` says when an entry gives a gateway, and which. It has no load yet, and
there is always a profile for plain OpenVPN. All of its profiles are drawn up from the entry, and
bear the name and the address of the gateway (`Gateway.represents_of_build`).
-/

namespace VpnDirectory

theorem Profiles.get?_map (ps : Profiles) (f : Profile → Profile) (t : Transport) :
    (ps.map f).get? t = (ps.get? t).map f := by
  cases t <;> rfl

/-- The profile is the one of a gateway for a transport, drawn up from this blueprint. -/
structure Profile.Represents (p : Profile) (g : Gateway) (b : Blueprint) (t : Transport) :
    Prop where
  transport : p.transport = t
  isPluggable : p.isPluggable = t.isPluggable
  isSome_options : p.options.isSome = t.isPluggable
  name : p.name = g.name
  gatewayIp : p.gatewayIp = g.address
  excludedApps : p.excludedApps = b.preferences.excludedApps
  text : p.text = b.text t

/-- The gateway is the one of an entry, and all of its profiles are drawn up from it. -/
structure Gateway.Represents (g : Gateway) (b : Blueprint) : Prop where
  host : g.host = b.entry.host
  address : g.address = b.entry.ipAddress
  openvpn : .openvpn ∈ g.transports
  transports : g.transports ⊆ [.openvpn, .obfs4]
  profiles : ∀ t p, g.profile? t = some p → p.Represents g b t

/-- What every profile keeps of its blueprint. -/
theorem Blueprint.of_profile_text {b : Blueprint} {t : Transport} {p : Profile}
    (h : b.profile t = .ok p) : p.options.isSome = t.isPluggable ∧ p.text = b.text t := by
  obtain ⟨statements, options, -, -, hp⟩ := profile_eq_ok_iff.1 h
  obtain ⟨d, q, -, -, hoptions, rfl⟩ := Config.profile_eq_ok_iff.1 hp
  refine ⟨?_, rfl⟩
  cases ht : t.isPluggable with
  | false => simp
  | true => simpa using hoptions ht

namespace Gateway

variable {g : Gateway}

/-- When an entry gives a gateway, and which. -/
theorem build_eq_ok_iff {service : Service} {secrets : Secrets} {item : Json}
    {preferences : Preferences} : build service secrets item preferences = .ok g ↔
      ∃ entry blueprint profiles, GatewayEntry.ofJson item = .ok entry ∧
        Blueprint.make service.directives secrets entry service.version preferences =
          .ok blueprint ∧
        blueprint.profiles = .ok profiles ∧ g = {
          name := (service.location entry.location).name
          host := entry.host
          address := entry.ipAddress
          timezone := (service.location entry.location).timezone
          version := service.version
          profiles := profiles.map fun p => { p with
            name := (service.location entry.location).name
            gatewayIp := entry.ipAddress
            excludedApps := preferences.excludedApps } } := by
  simp only [build, bind_eq_ok_iff, mapError_eq_ok_iff]
  constructor
  · rintro ⟨entry, hentry, blueprint, hblueprint, profiles, hprofiles, h⟩
    exact ⟨entry, blueprint, profiles, hentry, hblueprint, hprofiles, (Except.ok.inj h).symm⟩
  · rintro ⟨entry, blueprint, profiles, hentry, hblueprint, hprofiles, rfl⟩
    exact ⟨entry, hentry, blueprint, hblueprint, profiles, hprofiles, rfl⟩

/-- A gateway has no load when it is made. -/
theorem load_of_build {service : Service} {secrets : Secrets} {item : Json}
    {preferences : Preferences} (h : build service secrets item preferences = .ok g) :
    g.load = none := by
  obtain ⟨entry, blueprint, profiles, -, -, -, rfl⟩ := build_eq_ok_iff.1 h
  rfl

theorem mem_transports_iff (g : Gateway) (t : Transport) :
    t ∈ g.transports ↔ (g.profile? t).isSome := by
  rw [transports, Profiles.transports, List.mem_filter, and_iff_right t.mem_all]
  rfl

/-- A gateway that is made represents its entry. -/
theorem represents_of_build {service : Service} {secrets : Secrets} {item : Json}
    {preferences : Preferences} (h : build service secrets item preferences = .ok g) :
    ∃ entry b, GatewayEntry.ofJson item = .ok entry ∧
      Blueprint.make service.directives secrets entry service.version preferences = .ok b ∧
      g.Represents b := by
  obtain ⟨entry, b, profiles, hentry, hmake, hprofiles, rfl⟩ := build_eq_ok_iff.1 h
  refine ⟨entry, b, hentry, hmake, ?_⟩
  obtain ⟨-, -, rfl, -, rfl⟩ := Blueprint.of_make hmake
  refine ⟨rfl, rfl, ?_, fun t ht => ?_, fun t p hp => ?_⟩
  · rw [mem_transports_iff]
    rfl
  · rw [mem_transports_iff] at ht
    cases t with
    | openvpn => decide
    | obfs4 => decide
    | obfs4Hop => cases ht
  · rw [profile?, Profiles.get?_map, Option.map_eq_some_iff] at hp
    obtain ⟨q, hq, rfl⟩ := hp
    have hq := Blueprint.profile_of_profiles hprofiles hq
    obtain ⟨htransport, hpluggable⟩ := Blueprint.transport_of_profile hq
    obtain ⟨hoptions, htext⟩ := Blueprint.of_profile_text hq
    exact ⟨htransport, hpluggable, hoptions, rfl, rfl, rfl, htext⟩

/-- In early versions an entry without capabilities gives a gateway of its location, if there are no
general directives. -/
theorem exists_build_of_bare (service : Service) (item : Json) {entry : GatewayEntry}
    (hdirectives : service.directives = []) (hversion : service.version < Blueprint.matrixVersion)
    (hentry : GatewayEntry.ofJson item = .ok entry) (hbare : entry.capabilities = none)
    (preferences : Preferences) :
    ∃ g, build service {} item preferences = .ok g ∧ g.host = entry.host ∧
      g.name = (service.location entry.location).name ∧
      g.timezone = (service.location entry.location).timezone := by
  let b : Blueprint := ⟨[], {}, entry, service.version, preferences, []⟩
  have hmake : Blueprint.make service.directives {} entry service.version preferences = .ok b := by
    rw [Blueprint.make, hdirectives, if_neg (Int.not_le.2 hversion)]
    rfl
  have hnone : b.remotes .openvpn = [] := by
    rw [Blueprint.remotes, if_pos hversion, Blueprint.flatRemotes]
    simp [b, GatewayEntry.flat, hbare, Blueprint.usablePorts]
  have hremotes := Blueprint.pass_of_remotes_eq_nil hnone
  obtain ⟨p, hp, -⟩ := Blueprint.exists_profile_of_empty rfl rfl hremotes rfl rfl
  have hprofiles : b.profiles = .ok ⟨p, none⟩ := by
    rw [Blueprint.profiles, hp]
    rfl
  exact ⟨_, build_eq_ok_iff.2 ⟨_, _, _, hentry, hmake, hprofiles, rfl⟩, rfl, rfl, rfl⟩

/-- Every gateway has a profile for plain OpenVPN. -/
theorem supports_openvpn (g : Gateway) : g.supports .openvpn = true := rfl

end Gateway

end VpnDirectory
