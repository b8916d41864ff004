import VpnDirectory.Proofs.Gateway

/-!
# Preferences that leave no trace in profiles

Some preferences say how profiles are drawn up, `Preferences.RenderAlike`, and others only what is
selected later. The apps that do not use the tunnel are written down in every profile, where nothing
depends on them.

* `Blueprint.profiles_withPreferences` : the profiles of an entry depend on the first kind alone.
* `Gateway.excluding` : a gateway with other apps excluded. `Gateway.build_of_renderAlike` : this is
  all the difference that the other preferences make to a gateway, and they make none to the reason
  why there is none.
-/

namespace VpnDirectory

/-- The preferences agree on how profiles are drawn up. -/
structure Preferences.RenderAlike (p p' : Preferences) : Prop where
  prefersUdp : p.prefersUdp = p'.prefersUdp
  dialsBridges : p.dialsBridges = p'.dialsBridges
  pinning : p.pinning = p'.pinning

theorem Preferences.RenderAlike.activePinning {p p' : Preferences} (h : p.RenderAlike p') :
    p.activePinning = p'.activePinning := by
  rw [Preferences.activePinning, Preferences.activePinning, h.pinning, h.dialsBridges]

namespace Blueprint

variable {b : Blueprint} {p : Preferences}

/-- The blueprint for a client with other preferences. -/
def withPreferences (b : Blueprint) (p : Preferences) : Blueprint := { b with preferences := p }

theorem make_withPreferences (general : Json.Members) (secrets : Secrets) (entry : GatewayEntry)
    (version : Int) (p p' : Preferences) : make general secrets entry version p' =
      (make general secrets entry version p).map (·.withPreferences p') := by
  unfold make
  by_cases hversion : matrixVersion ≤ version
  · simp only [if_pos hversion]
    cases entry.matrix with
    | error e => rfl
    | ok matrix => rfl
  · simp only [if_neg hversion]
    rfl

theorem bridgeLine_withPreferences (h : b.preferences.RenderAlike p) (address port : String) :
    (b.withPreferences p).bridgeLine address port = b.bridgeLine address port := by
  unfold bridgeLine
  rw [h.dialsBridges, h.activePinning]
  rfl

theorem openvpnRemotes_withPreferences (h : b.preferences.RenderAlike p) :
    (b.withPreferences p).openvpnRemotes = b.openvpnRemotes := by
  unfold openvpnRemotes
  rw [h.prefersUdp]
  rfl

theorem obfs4Remotes_withPreferences (h : b.preferences.RenderAlike p) :
    (b.withPreferences p).obfs4Remotes = b.obfs4Remotes := by
  have hline : (b.withPreferences p).bridgeLine = b.bridgeLine :=
    funext fun address => funext fun port => bridgeLine_withPreferences h address port
  unfold obfs4Remotes
  rw [hline]
  rfl

theorem text_withPreferences (h : b.preferences.RenderAlike p) (t : Transport) :
    (b.withPreferences p).text t = b.text t := by
  unfold text remotes
  rw [openvpnRemotes_withPreferences h, obfs4Remotes_withPreferences h]
  rfl

theorem obfuscation_withPreferences (h : b.preferences.RenderAlike p) :
    (b.withPreferences p).obfuscation = b.obfuscation := by
  unfold obfuscation
  rw [h.activePinning]
  rfl

theorem profile_withPreferences (h : b.preferences.RenderAlike p) (t : Transport) :
    (b.withPreferences p).profile t = b.profile t := by
  unfold profile
  rw [text_withPreferences h, obfuscation_withPreferences h]

theorem profiles_withPreferences (h : b.preferences.RenderAlike p) :
    (b.withPreferences p).profiles = b.profiles := by
  unfold profiles
  rw [profile_withPreferences h, profile_withPreferences h]
  rfl

end Blueprint

theorem Profiles.map_map (ps : Profiles) (f f' : Profile → Profile) :
    (ps.map f).map f' = ps.map fun profile => f' (f profile) := by
  unfold map
  rw [Option.map_map]
  rfl

namespace Gateway

variable {service : Service} {secrets : Secrets} {p p' : Preferences}

/-- The gateway with these apps excluded from its tunnels. -/
def excluding (apps : StringSet) (g : Gateway) : Gateway :=
  { g with profiles := g.profiles.map fun profile => { profile with excludedApps := apps } }

/-- Preferences that agree on how profiles are drawn up give the same gateway but for the apps that
are excluded, or none for the same reason. -/
theorem build_of_renderAlike (h : p.RenderAlike p') (item : Json) :
    build service secrets item p' =
      (build service secrets item p).map (excluding p'.excludedApps) := by
  unfold build
  cases (GatewayEntry.ofJson item).mapError GatewayError.entry with
  | error e => rfl
  | ok entry =>
    rw [ok_bind, ok_bind, Blueprint.make_withPreferences _ _ _ _ p p']
    cases hmake : Blueprint.make service.directives secrets entry service.version p with
    | error e => rfl
    | ok b =>
      obtain ⟨-, -, -, -, rfl⟩ := Blueprint.of_make hmake
      have hother : (Except.map (·.withPreferences p')
          (.ok b : Except ConfigError Blueprint)).mapError GatewayError.config =
            .ok (b.withPreferences p') := rfl
      have hsame : (.ok b : Except ConfigError Blueprint).mapError GatewayError.config =
          .ok b := rfl
      rw [hother, hsame, ok_bind, ok_bind, Blueprint.profiles_withPreferences h]
      cases b.profiles with
      | error e => rfl
      | ok ps =>
        -- the apps are written over those that the profiles had
        refine congrArg Except.ok ?_
        rw [excluding, Profiles.map_map]

/-- Preferences that exclude the same apps as well give the same gateway. -/
theorem build_eq_of_renderAlike (h : p.RenderAlike p') (happs : p'.excludedApps = p.excludedApps)
    (item : Json) : build service secrets item p' = build service secrets item p := by
  have hsame : p.RenderAlike p := ⟨rfl, rfl, rfl⟩
  rw [build_of_renderAlike h, happs, ← build_of_renderAlike hsame]

theorem supports_excluding (apps : StringSet) (g : Gateway) (t : Transport) :
    (g.excluding apps).supports t = g.supports t := by
  unfold supports profile? excluding
  rw [Profiles.get?_map, Option.isSome_map]

theorem transports_excluding (apps : StringSet) (g : Gateway) :
    (g.excluding apps).transports = g.transports :=
  List.filter_congr fun t _ => supports_excluding apps g t

end Gateway

end VpnDirectory
