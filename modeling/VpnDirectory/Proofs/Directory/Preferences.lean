import VpnDirectory.Proofs.Directory.Locations
import VpnDirectory.Proofs.Gateway.Preferences

/-!
# Directories for other preferences

Preferences that agree on how profiles are drawn up make no difference to a directory but for the
apps that its profiles exclude. The city, the pinned host and the preferred transport count when a
gateway is asked for as the client prefers, and not before.

* `Directory.withPreferences` : the directory with other preferences and the apps that they exclude.
  `Directory.build_eq_withPreferences` : this is what such preferences give.
* `Directory.offered_withPreferences` : the same gateways are offered, in the same order.
* `Directory.sortedLocations_withPreferences`, `Directory.loadOf_withPreferences` : their locations
  are the same but for the mark of the preferred city.
* `Directory.agree_of_renderAlike` : all of this for every provider and every client.
-/

namespace VpnDirectory.Directory

variable {α : Type} [LoadNumber α]
variable {d : Directory} {provider : Provider} {p p' : Preferences} {clientTimezone : Int}

/-- The directory with other preferences and the apps that they exclude. -/
def withPreferences (d : Directory) (p : Preferences) : Directory :=
  { d with gateways := d.gateways.map (·.excluding p.excludedApps), preferences := p }

/-! ### The same gateways -/

theorem buildAll_of_renderAlike (h : p.RenderAlike p') :
    buildAll provider p' = (buildAll provider p).map (·.excluding p'.excludedApps) := by
  have hentry (item : Json) :
      gatewayOf? provider p' item =
        (gatewayOf? provider p item).map (·.excluding p'.excludedApps) := by
    rw [gatewayOf?, gatewayOf?, Gateway.build_of_renderAlike h]
    cases Gateway.build provider.service provider.secrets item p <;> rfl
  unfold buildAll
  rw [funext hentry, ← List.map_filterMap, keepFirst.of_map]
  rfl

theorem hosts_map_excluding (apps : StringSet) (gs : List Gateway) :
    (gs.map (·.excluding apps)).map (·.host) = gs.map (·.host) := by
  rw [List.map_map]
  rfl

theorem attachLoad_excluding (named : List NamedHost) (apps : StringSet) (g : Gateway) :
    attachLoad named (g.excluding apps) = (attachLoad named g).excluding apps := by
  have hhost : (g.excluding apps).host = g.host := rfl
  unfold attachLoad
  rw [hhost]
  split <;> rfl

/-- Preferences that agree on how profiles are drawn up make no other difference. -/
theorem build_eq_withPreferences (h : p.RenderAlike p') :
    build provider p' clientTimezone = (build provider p clientTimezone).withPreferences p' := by
  have horder : serverOrder provider p' = serverOrder provider p := by
    unfold serverOrder
    rw [buildAll_of_renderAlike h, hosts_map_excluding]
  have hgateways : (buildAll provider p').map (attachLoad (serverOrder provider p)) =
      ((buildAll provider p).map (attachLoad (serverOrder provider p))).map
        (·.excluding p'.excludedApps) := by
    rw [buildAll_of_renderAlike h, List.map_map, List.map_map]
    exact List.map_congr_left fun g _ => attachLoad_excluding _ _ g
  rw [build_eq, build_eq, horder]
  unfold assemble arranged listing withPreferences
  rw [hgateways, buildAll_of_renderAlike h, hosts_map_excluding]

/-- Preferences that exclude the same apps as well show in nothing but themselves. -/
theorem build_eq_of_renderAlike (h : p.RenderAlike p') (happs : p'.excludedApps = p.excludedApps) :
    build provider p' clientTimezone =
      { build provider p clientTimezone with preferences := p' } := by
  have hgateways : buildAll provider p' = buildAll provider p := by
    unfold buildAll gatewayOf?
    simp only [Gateway.build_eq_of_renderAlike h happs]
  rw [build_eq, build_eq, serverOrder, serverOrder, hgateways]
  rfl

/-! ### The same order -/

theorem rank_map_excluding (client : Int) (apps : StringSet) (gs : List Gateway) :
    rank client (gs.map (·.excluding apps)) = (rank client gs).map (·.excluding apps) := by
  have hnumbers : rankNumbers client (gs.map (·.excluding apps)) = rankNumbers client gs := by
    unfold rankNumbers
    rw [List.map_map]
    rfl
  rw [rank, rank, hnumbers, ranked_map]

theorem ordered_withPreferences (d : Directory) (p : Preferences) :
    (d.withPreferences p).ordered = d.ordered.map (·.excluding p.excludedApps) := by
  have hstrategy : (d.withPreferences p).strategy = d.strategy := rfl
  unfold ordered
  rw [hstrategy]
  split
  · exact ranked_map _ _ _ _
  · exact rank_map_excluding _ _ _

/-- The same gateways are offered, in the same order. -/
theorem offered_withPreferences (d : Directory) (p : Preferences) (t : Transport)
    (city : Option String) : (d.withPreferences p).offered t city =
      (d.offered t city).map (·.excluding p.excludedApps) := by
  unfold offered fitting
  rw [ordered_withPreferences, List.filter_map]
  congr 1
  refine List.filter_congr fun g _ => ?_
  rw [Function.comp_apply, Gateway.supports_excluding]
  rfl

theorem selectFor_withPreferences (d : Directory) (p : Preferences) (n : Nat) (t : Transport)
    (city : Option String) : (d.withPreferences p).selectFor n t city =
      (d.selectFor n t city).map (·.excluding p.excludedApps) := by
  unfold selectFor
  rw [offered_withPreferences, List.getElem?_map]

/-- The time zones are the same, and so is whether there is an order. -/
theorem isOrderInReach_withPreferences (d : Directory) (p : Preferences) :
    (d.withPreferences p).isOrderInReach = d.isOrderInReach := by
  unfold isOrderInReach isRankInReach withPreferences
  dsimp only
  rw [List.length_map, List.all_map]
  rfl

/-! ### The same locations -/

theorem unmarked_sumOf (d : Directory) (p : Preferences) (name : String) (gs : List Gateway) :
    ((d.withPreferences p).sumOf name (gs.map (·.excluding p.excludedApps)) :
      Location α).unmarked = (d.sumOf name gs).unmarked := by
  have hshare : (gs.map (·.excluding p.excludedApps)).map (d.withPreferences p).share =
      (gs.map d.share : List (α × List Transport)) := by
    rw [List.map_map]
    refine List.map_congr_left fun g _ => ?_
    unfold share
    rw [Function.comp_apply, Gateway.transports_excluding]
    rfl
  unfold sumOf
  rw [hshare, Location.unmarked_addAll, Location.unmarked_addAll]
  rfl

/-- The locations are the same but for the mark of the preferred city. -/
theorem locationsOf_withPreferences (d : Directory) (p : Preferences) (gs : List Gateway) :
    ((d.withPreferences p).locationsOf (gs.map (·.excluding p.excludedApps)) :
      List (Location α)).map (·.unmarked) = (d.locationsOf gs).map (·.unmarked) := by
  have hnames : (gs.map (·.excluding p.excludedApps)).map (·.name) = gs.map (·.name) := by
    rw [List.map_map]
    rfl
  rw [locationsOf_eq, locationsOf_eq, hnames, List.map_map, List.map_map]
  refine List.map_congr_left fun name _ => ?_
  have hfilter : (gs.map (·.excluding p.excludedApps)).filter (·.name == name) =
      (gs.filter (·.name == name)).map (·.excluding p.excludedApps) := by
    rw [List.filter_map]
    rfl
  rw [Function.comp_apply, Function.comp_apply, hfilter]
  exact unmarked_sumOf d p name _

/-- Sorting goes by the mean loads alone. -/
theorem map_unmarked_sortedByLoad (ls : List (Location α)) :
    (sortedByLoad ls).map (·.unmarked) = sortedByLoad (ls.map (·.unmarked)) :=
  List.map_mergeSort fun _ _ _ _ => rfl

theorem sortedLocations_withPreferences (d : Directory) (p : Preferences) (t : Transport) :
    ((d.withPreferences p).sortedLocations t : List (Location α)).map (·.unmarked) =
      (d.sortedLocations t).map (·.unmarked) := by
  unfold sortedLocations
  rw [map_unmarked_sortedByLoad, map_unmarked_sortedByLoad, offered_withPreferences,
    locationsOf_withPreferences]

/-- The class of a load does not depend on the mark. -/
theorem firstLoad_map_unmarked (ls : List (Location α)) :
    firstLoad (ls.map (·.unmarked)) = firstLoad ls := by
  cases ls <;> rfl

theorem loadOf_withPreferences (d : Directory) (p : Preferences) (name : String) (t : Transport) :
    (d.withPreferences p).loadOf (α := α) name t = d.loadOf (α := α) name t := by
  unfold loadOf
  rw [← firstLoad_map_unmarked, offered_withPreferences, locationsOf_withPreferences,
    firstLoad_map_unmarked]

theorem areLocationsInReach_withPreferences (d : Directory) (p : Preferences) (t : Transport)
    (city : Option String) :
    (d.withPreferences p).areLocationsInReach t city = d.areLocationsInReach t city := by
  unfold areLocationsInReach
  rw [isOrderInReach_withPreferences, offered_withPreferences, List.all_map]
  rfl

/-- Preferences that agree on the order of protocols, on how bridges are dialled and on the pinning
leave no other trace. Every entry gives the same gateway but for the apps that its profiles exclude,
or none for the same reason. The directory has the same gateways up to these apps and goes by the
same strategy. At every place, for every transport and city, a gateway of the same host is selected;
the sorted locations are the same but for the mark of the preferred city, and so is the load of
every location. What there is an answer to in checked arithmetic is the same. -/
theorem agree_of_renderAlike (h : p.RenderAlike p') (provider : Provider) (clientTimezone : Int) :
    let d := build provider p clientTimezone
    let d' := build provider p' clientTimezone
    (∀ item, Gateway.build provider.service provider.secrets item p' =
      (Gateway.build provider.service provider.secrets item p).map
        (·.excluding p'.excludedApps)) ∧
    d'.gateways = d.gateways.map (·.excluding p'.excludedApps) ∧
    d'.strategy = d.strategy ∧
    (∀ n t city, (d'.selectFor n t city).map (·.host) = (d.selectFor n t city).map (·.host)) ∧
    (∀ t, (d'.sortedLocations t : List (Location α)).map (·.unmarked) =
      (d.sortedLocations t).map (·.unmarked)) ∧
    (∀ name t, d'.loadOf (α := α) name t = d.loadOf (α := α) name t) ∧
    ∀ arithmetic : Arithmetic,
      (∀ n t city, (d'.selectForIn arithmetic n t city).map (Option.map (·.host)) =
        (d.selectForIn arithmetic n t city).map (Option.map (·.host))) ∧
      (∀ t, (d'.sortedLocationsIn arithmetic t : Except Overflow (List (Location α))).map
        (List.map (·.unmarked)) = (d.sortedLocationsIn arithmetic t).map (List.map (·.unmarked))) ∧
      ∀ name t, d'.loadOfIn (α := α) arithmetic name t = d.loadOfIn (α := α) arithmetic name t := by
  intro d d'
  have hd' : d' = d.withPreferences p' := build_eq_withPreferences h
  have hselect (n : Nat) (t : Transport) (city : Option String) :
      ((d.withPreferences p').selectFor n t city).map (·.host) =
        (d.selectFor n t city).map (·.host) := by
    rw [selectFor_withPreferences, Option.map_map]
    rfl
  rw [hd']
  refine ⟨Gateway.build_of_renderAlike h, rfl, rfl, hselect,
    sortedLocations_withPreferences d p', loadOf_withPreferences d p', fun arithmetic =>
      ⟨fun n t city => ?_, fun t => ?_, fun name t => ?_⟩⟩
  · rw [selectForIn_eq, selectForIn_eq, Arithmetic.map_answer, Arithmetic.map_answer, hselect,
      isOrderInReach_withPreferences]
  · rw [sortedLocationsIn_eq, sortedLocationsIn_eq, Arithmetic.map_answer, Arithmetic.map_answer,
      sortedLocations_withPreferences, areLocationsInReach_withPreferences]
  · rw [loadOfIn_eq, loadOfIn_eq, loadOf_withPreferences, areLocationsInReach_withPreferences]

/-! ### A client with wishes of its own -/

/-- Preferences for what is selected, and an app that does not use the tunnel. -/
def wishes : Preferences where
  preferredCity := some "Amsterdam"
  usesPluggable := true
  excludedApps := .ofList ["org.example.app"]
  pinnedGateway := some "b.example"

/-- The profiles exclude the app, and nothing else is different from a client without wishes. -/
theorem agree_of_renderAlike_wishes :
    let provider : Provider := { service := TwoGateways.service }
    let d := build provider {} 0
    let d' := build provider wishes 0
    d'.gateways.map (·.host) = ["a.example", "b.example"] ∧
      (∀ g ∈ d'.gateways, ∀ t q, g.profile? t = some q →
        q.excludedApps.toList = ["org.example.app"]) ∧
      d'.strategy = .clientTimezone ∧
      (∀ n t city, (d'.selectFor n t city).map (·.host) = (d.selectFor n t city).map (·.host)) ∧
      (∀ t, (d'.sortedLocations t).map (·.unmarked) = (d.sortedLocations t).map (·.unmarked)) ∧
      ∀ name t, d'.loadOf name t = d.loadOf name t := by
  intro provider d d'
  have halike : Preferences.RenderAlike {} wishes := ⟨rfl, rfl, rfl⟩
  obtain ⟨-, hgateways, hstrategy, hselect, hlocations, hload, -⟩ :=
    agree_of_renderAlike halike provider 0
  refine ⟨?_, ?_, ?_, hselect, hlocations, hload⟩
  · rw [hgateways, hosts_map_excluding, hosts_build]
    exact TwoGateways.hosts_built
  · rw [hgateways]
    intro g hg t q hq
    obtain ⟨g', -, rfl⟩ := List.mem_map.1 hg
    rw [Gateway.profile?, Gateway.excluding, Profiles.get?_map] at hq
    obtain ⟨q', -, rfl⟩ := Option.map_eq_some_iff.1 hq
    rfl
  · have hnone : serverOrder provider {} = [] := rfl
    rw [hstrategy, strategy_build, if_pos hnone]

end VpnDirectory.Directory
