import VpnDirectory.Proofs.Directory.Agreement

/-!
# Entries in another order

Where a server gives the order, the order of a provider's own entries does not show.

* `Directory.buildAll_perm` : entries in another order give the same gateways in another order, if
  no host has two of them.
* `Directory.agree_of_perm`, `Directory.build_perm` : a server that names one of the gateways makes
  the directories agree, although the lists of their gateways differ.
-/

namespace VpnDirectory.Directory

/-! ### Entries rearranged -/

variable {α : Type} [LoadNumber α]
variable {provider : Provider} {preferences : Preferences} {clientTimezone : Int}
variable {entries : List Json}

/-- No two gateways of the entries have the same host. -/
def HostsDistinct (provider : Provider) (preferences : Preferences) : Prop :=
  ((provider.service.gateways.filterMap (gatewayOf? provider preferences)).map (·.host)).Nodup

theorem buildAll_perm (hperm : entries.Perm provider.service.gateways)
    (hdistinct : HostsDistinct provider preferences) :
    (buildAll (provider.withEntries entries) preferences).Perm (buildAll provider preferences) := by
  have hbuilt := hperm.filterMap (gatewayOf? provider preferences)
  have hnodup : ((entries.filterMap (gatewayOf? provider preferences)).map (·.host)).Nodup :=
    (hbuilt.map Gateway.host).nodup_iff.2 hdistinct
  have hall : buildAll provider preferences =
      keepFirst (·.host) (provider.service.gateways.filterMap (gatewayOf? provider preferences)) :=
    rfl
  rw [buildAll_withEntries, hall, keepFirst.of_nodup hnodup, keepFirst.of_nodup hdistinct]
  exact hbuilt

/-- Which hosts of a server are known does not depend on the order of the gateways. -/
theorem firstNamed_congr {known known' : List String} (h : ∀ host, host ∈ known ↔ host ∈ known')
    (named : List NamedHost) : firstNamed known named = firstNamed known' named := by
  rw [firstNamed, firstNamed]
  congr 1
  refine List.filter_congr fun e _ => ?_
  rw [Bool.eq_iff_iff, List.contains_iff_mem, List.contains_iff_mem, h]

theorem serverOrder_perm (hperm : entries.Perm provider.service.gateways)
    (hdistinct : HostsDistinct provider preferences) :
    serverOrder (provider.withEntries entries) preferences = serverOrder provider preferences := by
  have hhosts := (buildAll_perm hperm hdistinct).map Gateway.host
  have horder : (provider.withEntries entries).order = provider.order := rfl
  rw [serverOrder, serverOrder, horder]
  cases provider.order with
  | none => rfl
  | some order => exact firstNamed_congr (fun host => hhosts.mem_iff) order.hosts

theorem serverOrder_ne_nil {order : ServerOrder} (horder : provider.order = some order)
    (hnamed : ∃ e ∈ order.hosts, e.host ∈ (buildAll provider preferences).map (·.host)) :
    serverOrder provider preferences ≠ [] := by
  obtain ⟨e, he, hknown⟩ := hnamed
  have hmem : e.host ∈ (serverOrder provider preferences).map (·.host) := by
    rw [serverOrder, horder]
    dsimp only
    rw [hosts_firstNamed, List.mem_eraseDups, List.mem_filter]
    exact ⟨List.mem_map_of_mem he, by simpa using hknown⟩
  exact fun hnil => by simp [hnil] at hmem

/-- Entries in another order give directories that agree, if a server names one of the gateways. -/
theorem agree_of_perm (hperm : entries.Perm provider.service.gateways)
    (hdistinct : HostsDistinct provider preferences)
    (hnamed : serverOrder provider preferences ≠ []) :
    (build (provider.withEntries entries) preferences clientTimezone).strategy =
        (build provider preferences clientTimezone).strategy ∧
      Agree (build (provider.withEntries entries) preferences clientTimezone)
        (build provider preferences clientTimezone) := by
  have hpresorted :
      (build (provider.withEntries entries) preferences clientTimezone).strategy.isPresorted :=
    isPresorted_build_iff.2 (by rwa [serverOrder_perm hperm hdistinct])
  have hpresorted' : (build provider preferences clientTimezone).strategy.isPresorted :=
    isPresorted_build_iff.2 hnamed
  have hgateways : (build (provider.withEntries entries) preferences clientTimezone).gateways.Perm
      (build provider preferences clientTimezone).gateways := by
    rw [build_eq, build_eq, serverOrder_perm hperm hdistinct]
    exact (buildAll_perm hperm hdistinct).map _
  have hfound (host : String) :
      (build (provider.withEntries entries) preferences clientTimezone).gateway? host =
        (build provider preferences clientTimezone).gateway? host := by
    -- no host comes twice, so that the place of a gateway does not matter to who is found
    ext g
    rw [(wellFormed_build _ _ _).gateway?_eq_some_iff,
      (wellFormed_build _ _ _).gateway?_eq_some_iff, hgateways.mem_iff]
  have hordered : (build (provider.withEntries entries) preferences clientTimezone).ordered =
      (build provider preferences clientTimezone).ordered := by
    -- the numbers in the order are others, but they lead to gateways of the same hosts
    refine List.map_injective_iff.2 (Option.some_injective Gateway) ?_
    rw [(wellFormed_build _ _ _).map_some_ordered hpresorted,
      (wellFormed_build _ _ _).map_some_ordered hpresorted', serverHosts_build, serverHosts_build,
      serverOrder_perm hperm hdistinct, funext hfound]
  refine ⟨?_, ⟨hordered, ?_, hfound, ?_⟩, fun g _ _ => ?_, fun g _ => ?_⟩
  · rw [build_eq, build_eq, serverOrder_perm hperm hdistinct]
    rfl
  · rw [isOrderInReach_of_isPresorted hpresorted, isOrderInReach_of_isPresorted hpresorted']
  · rw [preferences_build, preferences_build]
  · rw [clientTimezone_build, clientTimezone_build]
  · rw [clientTimezone_build, clientTimezone_build]

/-- Where a server names one of the gateways, the order of the entries of a provider makes no
difference to its strategy, to what is selected and where, to the locations and to what is found
under a host, in any arithmetic. -/
theorem build_perm {order : ServerOrder} (hperm : entries.Perm provider.service.gateways)
    (hdistinct : HostsDistinct provider preferences) (horder : provider.order = some order)
    (hnamed : ∃ e ∈ order.hosts,
      e.host ∈ (build provider preferences clientTimezone).gateways.map (·.host)) :
    let d := build (provider.withEntries entries) preferences clientTimezone
    let d' := build provider preferences clientTimezone
    d.strategy = d'.strategy ∧ (∀ n city, d.select n city = d'.select n city) ∧
      (∀ n t city, d.selectFor n t city = d'.selectFor n t city) ∧
      (∀ n, d.selectPreferred n = d'.selectPreferred n) ∧
      (∀ p, d.position p = d'.position p) ∧
      (d.locations : List (Location α)) = d'.locations ∧
      (∀ t, (d.sortedLocations t : List (Location α)) = d'.sortedLocations t) ∧
      (∀ name, (d.location? name : Option (Location α)) = d'.location? name) ∧
      (∀ name t, d.loadOf (α := α) name t = d'.loadOf (α := α) name t) ∧
      (∀ host, d.gateway? host = d'.gateway? host) ∧
      ∀ arithmetic : Arithmetic, AnswersAlike arithmetic d d' := by
  intro d d'
  rw [hosts_build] at hnamed
  obtain ⟨hstrategy, hagree⟩ : d.strategy = d'.strategy ∧ Agree d d' :=
    agree_of_perm hperm hdistinct (serverOrder_ne_nil horder hnamed)
  exact ⟨hstrategy, hagree.select_eq, hagree.selectFor_eq, hagree.selectPreferred_eq,
    hagree.position_eq, hagree.locations_eq, hagree.sortedLocations_eq, hagree.location?_eq,
    hagree.loadOf_eq, hagree.gateway?, fun _ => hagree.answersAlike⟩

/-- Two entries the other way round. -/
theorem build_perm_twoGateways :
    let provider : Provider := {
      service := TwoGateways.service, order := ServerOrder.ofJson? TwoGateways.geo }
    let entries := [TwoGateways.entry "b.example", TwoGateways.entry "a.example"]
    let d := build (provider.withEntries entries) {} 0
    let d' := build provider {} 0
    d.gateways.map (·.host) = ["b.example", "a.example"] ∧
      d'.gateways.map (·.host) = ["a.example", "b.example"] ∧ d.strategy = d'.strategy ∧
      (∀ n t city, d.selectFor n t city = d'.selectFor n t city) ∧ d.locations = d'.locations := by
  intro provider entries d d'
  obtain ⟨g, hg, hhost⟩ := TwoGateways.exists_build "a.example"
  obtain ⟨g', hg', hhost'⟩ := TwoGateways.exists_build "b.example"
  have hof : gatewayOf? provider {} (TwoGateways.entry "a.example") = some g :=
    gatewayOf?_eq_some_iff.2 hg
  have hof' : gatewayOf? provider {} (TwoGateways.entry "b.example") = some g' :=
    gatewayOf?_eq_some_iff.2 hg'
  have hhosts : d'.gateways.map (·.host) = ["a.example", "b.example"] := by
    rw [hosts_build]
    exact TwoGateways.hosts_built
  have hperm : entries.Perm provider.service.gateways := .swap _ _ _
  have hdistinct : HostsDistinct provider {} := by
    have hbuilt : provider.service.gateways.map (gatewayOf? provider {}) = [g, g'].map some :=
      congrArg₂ (fun a b => [a, b]) hof hof'
    rw [HostsDistinct, filterMap_of_map_eq hbuilt, List.map_cons, List.map_singleton, hhost, hhost']
    decide
  have hswapped : d.gateways.map (·.host) = ["b.example", "a.example"] := by
    have hbuilt : entries.map (gatewayOf? (provider.withEntries entries) {}) = [g', g].map some :=
      congrArg₂ (fun a b => [a, b]) hof' hof
    have hnamed : [g', g].map (·.host) = ["b.example", "a.example"] := by
      rw [List.map_cons, List.map_singleton, hhost, hhost']
    rw [hosts_build, buildAll_of_nodup hbuilt (by rw [hnamed]; decide), hnamed]
  obtain ⟨order, horder, e, he, hb⟩ : ∃ order, provider.order = some order ∧
      ∃ e ∈ order.hosts, e.host = "b.example" := ⟨_, rfl, _, .tail _ (.head _), rfl⟩
  have hnamed : ∃ e ∈ order.hosts, e.host ∈ (build provider {} 0).gateways.map (·.host) :=
    ⟨e, he, by rw [hhosts, hb]; simp⟩
  obtain ⟨hstrategy, -, hselect, -, -, hlocations, -⟩ := build_perm hperm hdistinct horder hnamed
  exact ⟨hswapped, hhosts, hstrategy, hselect, hlocations⟩

end VpnDirectory.Directory
