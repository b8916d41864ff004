import VpnDirectory.Proofs.Directory.ServerOrder

/-!
# How a directory comes about

The entries of a provider are taken one after another. An entry adds its gateway at the end of the
list, unless it gives none or an earlier one has its host.

* `Directory.buildAll_concat` : what one more entry adds.
* `Directory.buildAll_eq` : the list of gateways by the places of their entries. An entry with the
  same host that gives no gateway does not stand in the way of a later one.
* `Directory.build_gateways` : all of this for every provider, and that entries which add nothing
  make no difference to the directory.
-/

namespace VpnDirectory

/-- The provider with other gateway entries. -/
def Provider.withEntries (provider : Provider) (entries : List Json) : Provider :=
  { provider with service := { provider.service with gateways := entries } }

/-- The gateway as it was made, without a load. -/
def Gateway.withoutLoad (g : Gateway) : Gateway := { g with load := none }

namespace Directory

variable {provider : Provider} {preferences : Preferences} {clientTimezone : Int}
variable {entry : Json} {entries front back : List Json} {g : Gateway}

/-! ### Entries one after another -/

theorem buildAll_withEntries (provider : Provider) (preferences : Preferences)
    (entries : List Json) : buildAll (provider.withEntries entries) preferences =
      keepFirst (·.host) (entries.filterMap (gatewayOf? provider preferences)) := rfl

/-- If every entry gives a gateway and no host comes twice, all of the gateways are there. -/
theorem buildAll_of_nodup {gs : List Gateway}
    (hgs : provider.service.gateways.map (gatewayOf? provider preferences) = gs.map some)
    (hnodup : (gs.map (·.host)).Nodup) : buildAll provider preferences = gs := by
  have hbuilt := filterMap_of_map_eq hgs
  exact (congrArg (keepFirst (·.host)) hbuilt).trans (keepFirst.of_nodup hnodup)

/-- The gateway that an entry adds to those of earlier entries, if it adds one. -/
def added? (provider : Provider) (preferences : Preferences) (earlier : List Json) (entry : Json) :
    Option Gateway :=
  (gatewayOf? provider preferences entry).filter fun g =>
    (earlier.filterMap (gatewayOf? provider preferences)).all (·.host != g.host)

/-- One more entry adds its gateway at the end, unless it gives none or one with a host that an
earlier entry has a gateway for. -/
theorem buildAll_concat (provider : Provider) (preferences : Preferences) (entries : List Json)
    (entry : Json) : buildAll (provider.withEntries (entries ++ [entry])) preferences =
      buildAll (provider.withEntries entries) preferences ++
        (added? provider preferences entries entry).toList := by
  have hearlier (g : Gateway) : (entries.filterMap (gatewayOf? provider preferences)).all
      (·.host != g.host) =
        decide (g.host ∉ (entries.filterMap (gatewayOf? provider preferences)).map (·.host)) := by
    rw [Bool.eq_iff_iff, List.all_eq_true, decide_eq_true_iff, List.mem_map, not_exists]
    simp only [bne_iff_ne, ne_eq, not_and]
  rw [buildAll_withEntries, buildAll_withEntries, keepFirst.append_filterMap, added?]
  simp only [hearlier]

/-- The gateways are those that the entries add to the entries before them, in order. -/
theorem buildAll_eq (provider : Provider) (preferences : Preferences) :
    buildAll provider preferences =
      (List.range provider.service.gateways.length).filterMap fun i =>
        provider.service.gateways[i]?.bind
          (added? provider preferences (provider.service.gateways.take i)) := by
  -- the induction is on the entries from the last one, as each looks back at those before it
  suffices h : ∀ entries : List Json, buildAll (provider.withEntries entries) preferences =
      (List.range entries.length).filterMap fun i =>
        entries[i]?.bind (added? provider preferences (entries.take i)) from
    h provider.service.gateways
  intro entries
  induction entries using List.reverseRecOn with
  | nil => rfl
  | append_singleton entries entry ih =>
    rw [buildAll_concat, ih, List.length_append, List.length_singleton, List.range_succ,
      List.filterMap_append]
    congr 1
    · -- the places before the last one have the same entries before them
      refine List.filterMap_congr fun i hi => ?_
      have hlt := List.mem_range.1 hi
      rw [List.getElem?_append_left hlt, List.take_append_of_le_length hlt.le]
    · cases hadded : added? provider preferences entries entry <;> simp [hadded]

/-- An entry that adds nothing to the entries before it makes no difference to the gateways. -/
theorem buildAll_insert (h : ∀ g, gatewayOf? provider preferences entry = some g →
      ∃ e ∈ front, ∃ g', gatewayOf? provider preferences e = some g' ∧ g'.host = g.host) :
    buildAll (provider.withEntries (front ++ entry :: back)) preferences =
      buildAll (provider.withEntries (front ++ back)) preferences := by
  rw [buildAll_withEntries, buildAll_withEntries, List.filterMap_append, List.filterMap_append,
    List.filterMap_cons]
  split
  · rfl
  · next g hg =>
    -- the earlier gateway keeps this one out
    obtain ⟨e, he, g', hg', hhost⟩ := h g hg
    refine keepFirst.append_cons ?_
    exact List.mem_map.2 ⟨g', List.mem_filterMap.2 ⟨e, he, hg'⟩, hhost⟩

/-- Directories of providers that differ in their entries alone are the same if the gateways are. -/
theorem build_withEntries (h : buildAll (provider.withEntries entries) preferences =
      buildAll provider preferences) :
    build (provider.withEntries entries) preferences clientTimezone =
      build provider preferences clientTimezone := by
  rw [build_eq, build_eq, serverOrder, serverOrder, h]
  rfl

/-! ### Gateways and their hosts -/

theorem strategy_build (provider : Provider) (preferences : Preferences) (clientTimezone : Int) :
    (build provider preferences clientTimezone).strategy =
      if serverOrder provider preferences = [] then .clientTimezone
      else provider.order.elim .clientTimezone ServerOrder.strategy := by
  rw [build_eq, assemble]
  simp

/-- The order comes from the server exactly when it names a host that has a gateway. -/
theorem isPresorted_build_iff : (build provider preferences clientTimezone).strategy.isPresorted ↔
    serverOrder provider preferences ≠ [] := by
  rw [build_eq, assemble]
  dsimp only
  by_cases hnil : serverOrder provider preferences = []
  · rw [hnil]
    simp [Strategy.isPresorted]
  · rw [if_neg (by simpa using hnil)]
    cases horder : provider.order with
    | none => exact absurd (by rw [serverOrder, horder]) hnil
    | some order => cases order <;> simp [hnil, ServerOrder.strategy, Strategy.isPresorted]

theorem withoutLoad_attachLoad (named : List NamedHost) (g : Gateway) :
    (attachLoad named g).withoutLoad = g.withoutLoad := by
  rw [attachLoad]
  split <;> rfl

theorem withoutLoad_of_mem_buildAll (h : g ∈ buildAll provider preferences) :
    g.withoutLoad = g := by
  rw [Gateway.withoutLoad, ← load_of_mem_buildAll h]

/-- But for their loads, the gateways of a directory are those that could be built. -/
theorem withoutLoad_build (provider : Provider) (preferences : Preferences) (clientTimezone : Int) :
    (build provider preferences clientTimezone).gateways.map Gateway.withoutLoad =
      buildAll provider preferences := by
  rw [build_eq, assemble, arranged, List.map_map]
  have hkept : ∀ g ∈ buildAll provider preferences,
      (Gateway.withoutLoad ∘ attachLoad (serverOrder provider preferences)) g = id g :=
    fun g hg => (withoutLoad_attachLoad _ g).trans (withoutLoad_of_mem_buildAll hg)
  rw [List.map_congr_left hkept, List.map_id]

/-- Every gateway of a directory comes of an entry. -/
theorem exists_entry_of_mem_gateways
    (h : g ∈ (build provider preferences clientTimezone).gateways) :
    ∃ entry ∈ provider.service.gateways,
      Gateway.build provider.service provider.secrets entry preferences = .ok g.withoutLoad := by
  have hmem : g.withoutLoad ∈ buildAll provider preferences := by
    rw [← withoutLoad_build provider preferences clientTimezone]
    exact List.mem_map_of_mem h
  obtain ⟨entry, hentry, hbuild⟩ := List.mem_filterMap.1 (keepFirst.sublist.subset hmem)
  exact ⟨entry, hentry, gatewayOf?_eq_some_iff.1 hbuild⟩

/-- How the gateways of a provider come about. No host comes twice, and a gateway is found under
its host. They are the gateways of the entries in their order, an entry being passed over if it
gives none or if an earlier one has given one with its host; such entries can be put in anywhere
without a difference to the directory. -/
theorem build_gateways (provider : Provider) (preferences : Preferences) (clientTimezone : Int) :
    let d := build provider preferences clientTimezone
    let entries := provider.service.gateways
    (d.gateways.map (·.host)).Nodup ∧
      (∀ host g, d.gateway? host = some g ↔ g ∈ d.gateways ∧ g.host = host) ∧
      d.gateways.map Gateway.withoutLoad = ((List.range entries.length).filterMap fun i =>
        entries[i]?.bind (added? provider preferences (entries.take i))) ∧
      ∀ front entry back, entries = front ++ back →
        ((∃ e, Gateway.build provider.service provider.secrets entry preferences = .error e) ∨
          ∃ g, Gateway.build provider.service provider.secrets entry preferences = .ok g ∧
            ∃ earlier ∈ front, ∃ g',
              Gateway.build provider.service provider.secrets earlier preferences = .ok g' ∧
                g'.host = g.host) →
        build (provider.withEntries (front ++ entry :: back)) preferences clientTimezone = d := by
  intro d entries
  have hwf : d.WellFormed := wellFormed_build provider preferences clientTimezone
  refine ⟨hwf.nodup_hosts, fun host g => hwf.gateway?_eq_some_iff, ?_, ?_⟩
  · rw [withoutLoad_build, buildAll_eq]
  · intro front entry back hentries hadds
    refine build_withEntries ?_
    rw [buildAll_insert, ← hentries]
    · rfl
    · intro g hg
      rcases hadds with herror | ⟨g₁, hg₁, e, he, g', hg', hhost⟩
      · rw [gatewayOf?_eq_none_iff.2 herror] at hg
        cases hg
      · obtain rfl : g₁ = g := by simpa [gatewayOf?_eq_some_iff.2 hg₁] using hg
        exact ⟨e, he, g', gatewayOf?_eq_some_iff.2 hg', hhost⟩

/-- A host of an entry that gives no gateway is free for a later entry, and an entry with the host
of an earlier gateway is passed over. -/
theorem build_gateways_twoGateways :
    let provider : Provider := { service := TwoGateways.service }
    let overlong : Json := .array (List.replicate 6 (.text "a.example"))
    let first := TwoGateways.entry "a.example"
    let second := TwoGateways.entry "b.example"
    let d := build provider {} 0
    d.gateways.map (·.host) = ["a.example", "b.example"] ∧
      build (provider.withEntries [overlong, first, second]) {} 0 = d ∧
      build (provider.withEntries [first, first, second]) {} 0 = d := by
  intro provider overlong first second d
  obtain ⟨g, hg, -⟩ := TwoGateways.exists_build "a.example"
  obtain ⟨-, -, -, hinsert⟩ := build_gateways provider {} 0
  refine ⟨?_, ?_, ?_⟩
  · rw [hosts_build]
    exact TwoGateways.hosts_built
  · exact hinsert [] overlong [first, second] rfl (.inl ⟨_, rfl⟩)
  · exact hinsert [first] first [second] rfl
      (.inr ⟨g, hg, first, List.mem_singleton_self first, g, hg, rfl⟩)

end Directory

end VpnDirectory
