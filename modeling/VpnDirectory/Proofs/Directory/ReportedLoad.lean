import VpnDirectory.Proofs.Directory.Agreement

/-!
# Reported loads and the client's time zone

Where no load is reported, the distance to the client stands in for it. A directory never goes by
both: in the order of a server that reports loads every gateway has one, and in any other order no
gateway has.

* `Directory.isSome_load_iff` : the gateways that are offered have loads exactly if the order is one
  by load.
* `Directory.orderAlike_forClient`, `Directory.agree_forClient` : what stays the same for a client
  in another time zone.
* `Directory.loads_of_strategy` : in the order of a server the time zone of the client makes no
  difference to what is selected, and with loads none to the locations either.
-/

namespace VpnDirectory

/-- A list of hosts has loads for all of them or for none. -/
theorem ServerOrder.isSome_load_iff {order : ServerOrder} {e : NamedHost} (h : e ∈ order.hosts) :
    e.load.isSome ↔ order.strategy = .serverLoad := by
  cases order with
  | byLoad hosts =>
    obtain ⟨host, -, rfl⟩ := List.mem_map.1 h
    exact iff_of_true rfl rfl
  | byName hosts =>
    obtain ⟨host, -, rfl⟩ := List.mem_map.1 h
    exact iff_of_false Bool.false_ne_true nofun

namespace Directory

variable {α : Type} [LoadNumber α]
variable {provider : Provider} {preferences : Preferences} {clientTimezone client : Int}
variable {d : Directory} {g : Gateway} {gs : List Gateway}

/-! ### Loads in the order of a directory -/

/-- A gateway has the load that the server's order has for its host. -/
theorem load_of_mem_build (h : g ∈ (build provider preferences clientTimezone).gateways) :
    g.load = ((serverOrder provider preferences).find? (·.host == g.host)).bind (·.load) := by
  rw [build_eq] at h
  exact (load_of_mem_assemble h).1

/-- The gateways that are offered have loads exactly if the order is one by load. -/
theorem isSome_load_iff (h : g ∈ (build provider preferences clientTimezone).ordered) :
    g.load.isSome ↔ (build provider preferences clientTimezone).strategy = .serverLoad := by
  have hload := load_of_mem_build (mem_gateways_of_mem_ordered h)
  rw [strategy_build]
  by_cases hnil : serverOrder provider preferences = []
  · rw [hload, hnil, if_pos rfl]
    exact iff_of_false Bool.false_ne_true nofun
  · -- a gateway in the order of a server is one of those that the server names
    have hpresorted : (build provider preferences clientTimezone).strategy.isPresorted :=
      isPresorted_build_iff.2 hnil
    have hhost : g.host ∈ (serverOrder provider preferences).map (·.host) := by
      rw [← serverHosts_build provider preferences clientTimezone,
        ← (wellFormed_build provider preferences clientTimezone).hosts_ordered hpresorted]
      exact List.mem_map_of_mem h
    obtain ⟨e, hfind⟩ : ∃ e,
        (serverOrder provider preferences).find? (·.host == g.host) = some e := by
      obtain ⟨e, he, heq⟩ := List.mem_map.1 hhost
      exact Option.isSome_iff_exists.1 (List.find?_isSome.2 ⟨e, he, by simpa using heq⟩)
    have hmem := List.mem_of_find?_eq_some hfind
    rw [hload, hfind, if_neg hnil, Option.bind_some]
    rw [serverOrder] at hmem
    cases horder : provider.order with
    | none =>
      rw [horder] at hmem
      cases hmem
    | some order =>
      rw [horder] at hmem
      exact ServerOrder.isSome_load_iff (List.mem_filter.1 (keepFirst.sublist.subset hmem)).1

/-! ### Another client -/

/-- In the order of a server no distance is asked for. -/
theorem orderAlike_forClient (h : d.strategy.isPresorted) (client : Int) :
    OrderAlike d (d.forClient client) := by
  have h' : (d.forClient client).strategy.isPresorted := h
  refine ⟨?_, ?_, fun host => rfl, rfl⟩
  · rw [ordered, ordered, if_pos h, if_pos h']
    rfl
  · rw [isOrderInReach_of_isPresorted h, isOrderInReach_of_isPresorted h']

/-- If all of the gateways that are offered have loads, no distance stands in for one. -/
theorem agree_forClient (h : d.strategy.isPresorted) (hloads : ∀ g ∈ d.ordered, g.load.isSome)
    (client : Int) : Agree d (d.forClient client) where
  toOrderAlike := orderAlike_forClient h client
  distance g hg hload := by
    have hsome := hloads g hg
    rw [hload] at hsome
    cases hsome
  isLoadInReach g hg := by
    rw [Gateway.isLoadInReach, Gateway.isLoadInReach, hloads g hg, Bool.true_or, Bool.true_or]

/-- With loads for all of the gateways that are offered there are locations in any arithmetic. -/
theorem areLocationsInReach_of_loads (h : d.strategy.isPresorted)
    (hloads : ∀ g ∈ d.ordered, g.load.isSome) (t : Transport) (city : Option String) :
    d.areLocationsInReach t city := by
  rw [areLocationsInReach, isOrderInReach_of_isPresorted h, Bool.true_and, List.all_eq_true]
  intro g hg
  rw [Gateway.isLoadInReach, hloads g (mem_offered_iff.1 hg).1, Bool.true_or]

/-- In the order of a server the time zone of the client makes no difference to what is selected and
where it stands. If the server reports loads, every gateway that is offered has one, so that no
distance stands in for it and the locations are the same as well; in any other order no gateway has
a load. No difference is asked for that might not fit, so that the arithmetic makes no difference
either. -/
theorem loads_of_strategy (provider : Provider) (preferences : Preferences)
    (clientTimezone client : Int) :
    let d := build provider preferences clientTimezone
    let d' := build provider preferences client
    (∀ g ∈ d.ordered, g.load.isSome ↔ d.strategy = .serverLoad) ∧ d.strategy = d'.strategy ∧
      (d.strategy = .serverLoad →
        (∀ n t city, d.selectFor n t city = d'.selectFor n t city) ∧
        (∀ n, d.selectPreferred n = d'.selectPreferred n) ∧
        (∀ p, d.position p = d'.position p) ∧
        (d.locations : List (Location α)) = d'.locations ∧
        (∀ t, (d.sortedLocations t : List (Location α)) = d'.sortedLocations t) ∧
        (∀ name, (d.location? name : Option (Location α)) = d'.location? name) ∧
        (∀ name t, d.loadOf (α := α) name t = d'.loadOf (α := α) name t) ∧
        (∀ t city, d.areLocationsInReach t city) ∧
        ∀ arithmetic : Arithmetic, AnswersAlike arithmetic d d') ∧
      (d.strategy = .serverOrder →
        (∀ n t city, d.selectFor n t city = d'.selectFor n t city) ∧
        (∀ n, d.selectPreferred n = d'.selectPreferred n) ∧
        (∀ p, d.position p = d'.position p) ∧ d.isOrderInReach ∧
        ∀ arithmetic : Arithmetic, SelectsAlike arithmetic d d') := by
  intro d d'
  have hd' : d' = d.forClient client := (forClient_build _ _ _ _).symm
  have hloads : ∀ g ∈ d.ordered, g.load.isSome ↔ d.strategy = .serverLoad :=
    fun g hg => isSome_load_iff hg
  refine ⟨hloads, by rw [hd']; rfl, fun hstrategy => ?_, fun hstrategy => ?_⟩
  · have hpresorted : d.strategy.isPresorted := by rw [hstrategy]; rfl
    have hall : ∀ g ∈ d.ordered, g.load.isSome := fun g hg => (hloads g hg).2 hstrategy
    have hagree : Agree d d' := hd' ▸ agree_forClient hpresorted hall client
    exact ⟨hagree.selectFor_eq, hagree.selectPreferred_eq, hagree.position_eq,
      hagree.locations_eq, hagree.sortedLocations_eq, hagree.location?_eq, hagree.loadOf_eq,
      areLocationsInReach_of_loads hpresorted hall, fun _ => hagree.answersAlike⟩
  · have hpresorted : d.strategy.isPresorted := by rw [hstrategy]; rfl
    have halike : OrderAlike d d' := hd' ▸ orderAlike_forClient hpresorted client
    exact ⟨halike.selectFor_eq, halike.selectPreferred_eq, halike.position_eq,
      isOrderInReach_of_isPresorted hpresorted, fun _ => halike.selectsAlike⟩

/-- A host with a load, and the same host by name alone, for clients that are far apart. -/
theorem loads_of_strategy_twoGateways :
    let provider : Provider := {
      service := TwoGateways.service
      order := some (.byLoad [⟨"b.example", { overload := true }⟩]) }
    let provider' : Provider := {
      service := TwoGateways.service
      order := some (.byName ["b.example"]) }
    let d := build provider {} 0
    let d' := build provider' {} 0
    d.ordered.map (·.host) = ["b.example"] ∧ (∀ g ∈ d.ordered, g.load.isSome) ∧
      (∀ n t city, d.selectFor n t city = (build provider {} 12).selectFor n t city) ∧
      d.locations = (build provider {} 12).locations ∧
      d'.ordered.map (·.host) = ["b.example"] ∧ (∀ g ∈ d'.ordered, g.load.isSome = false) ∧
      ∀ n t city, d'.selectFor n t city = (build provider' {} 12).selectFor n t city := by
  intro provider provider' d d'
  have hhosts : (buildAll provider {}).map (·.host) = ["a.example", "b.example"] :=
    TwoGateways.hosts_built
  have horder : (serverOrder provider {}).map (·.host) = ["b.example"] := by
    rw [serverOrder, hhosts]
    rfl
  have horder' : (serverOrder provider' {}).map (·.host) = ["b.example"] := by
    rw [serverOrder, show (buildAll provider' {}).map (·.host) = _ from hhosts]
    rfl
  have hstrategy : d.strategy = .serverLoad := by
    rw [strategy_build, if_neg fun hnil => by simp [hnil] at horder]
    rfl
  have hstrategy' : d'.strategy = .serverOrder := by
    rw [strategy_build, if_neg fun hnil => by simp [hnil] at horder']
    rfl
  obtain ⟨hloads, -, hsame, -⟩ := loads_of_strategy provider {} 0 12
  obtain ⟨hloads', -, -, hsame'⟩ := loads_of_strategy provider' {} 0 12
  obtain ⟨hselect, -, -, hlocations, -⟩ := hsame hstrategy
  refine ⟨?_, fun g hg => (hloads g hg).2 hstrategy, hselect, hlocations, ?_, fun g hg => ?_,
    (hsame' hstrategy').1⟩
  · have hpresorted : d.strategy.isPresorted := by rw [hstrategy]; rfl
    rw [(wellFormed_build provider {} 0).hosts_ordered hpresorted, serverHosts_build, horder]
  · have hpresorted : d'.strategy.isPresorted := by rw [hstrategy']; rfl
    rw [(wellFormed_build provider' {} 0).hosts_ordered hpresorted, serverHosts_build, horder']
  · rw [← Bool.not_eq_true, hloads' g hg, hstrategy']
    decide

end Directory

end VpnDirectory
