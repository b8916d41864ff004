import VpnDirectory.Proofs.Directory.Position

/-!
# What a gateway stands for

The profiles of a gateway are drawn up from one entry of its provider, and bear the name and the
address of the gateway (`Gateway.Represents`). This is so when it is made
(`Gateway.represents_of_build`).

* `Gateway.foldl_withLoad` : reports change nothing but the load, and only the last one counts.
* `Gateway.Represents.of_load` : the load makes no difference to what a gateway represents.
* `Directory.exists_split_of_mem_buildAll` : the entry is the first one that gives a gateway with
  the host.
* `Directory.gateways_represent` : all of this for every gateway of a directory.
-/

namespace VpnDirectory

/-! ### Loads -/

namespace Gateway

variable {g : Gateway} {b : Blueprint}

/-- Reports change nothing but the load, and only the last one counts. -/
theorem foldl_withLoad (g : Gateway) (loads : List ReportedLoad) :
    loads.foldl withLoad g = { g with load := loads.getLast?.or g.load } := by
  induction loads generalizing g with
  | nil => rfl
  | cons load loads ih =>
    rw [List.foldl_cons, ih, List.getLast?_cons]
    cases loads.getLast? <;> rfl

/-- The load makes no difference to what a gateway represents. -/
theorem Represents.of_load (h : g.Represents b) (load : Option ReportedLoad) :
    Gateway.Represents { g with load } b := by
  refine ⟨h.host, h.address, h.openvpn, h.transports, fun t p hp => ?_⟩
  obtain ⟨htransport, hpluggable, hoptions, hname, hip, hexcluded, htext⟩ := h.profiles t p hp
  exact ⟨htransport, hpluggable, hoptions, hname, hip, hexcluded, htext⟩

end Gateway

/-! ### Gateways of a directory -/

namespace Directory

variable {provider : Provider} {preferences : Preferences} {clientTimezone : Int} {g : Gateway}

/-- Every gateway comes of the first entry that gives one with its host. -/
theorem exists_split_of_mem_buildAll (h : g ∈ buildAll provider preferences) :
    ∃ front item back, provider.service.gateways = front ++ item :: back ∧
      gatewayOf? provider preferences item = some g ∧
      ∀ e ∈ front, ∀ g', gatewayOf? provider preferences e = some g' → g'.host ≠ g.host := by
  rw [buildAll_eq, List.mem_filterMap] at h
  obtain ⟨i, -, hi⟩ := h
  obtain ⟨item, hitem, hadded⟩ := Option.bind_eq_some_iff.1 hi
  obtain ⟨hlt, rfl⟩ := List.getElem?_eq_some_iff.1 hitem
  obtain ⟨hbuilt, hnew⟩ := Option.filter_eq_some_iff.1 hadded
  refine ⟨provider.service.gateways.take i, _, provider.service.gateways.drop (i + 1), ?_, hbuilt,
    fun e he g' hg' => ?_⟩
  · rw [← List.drop_eq_getElem_cons hlt, List.take_append_drop]
  · rw [List.all_eq_true] at hnew
    simpa using hnew g' (List.mem_filterMap.2 ⟨e, he, hg'⟩)

/-- What a gateway of a directory stands for, and what remains true of it when loads are reported.
It is the gateway of the first entry that gives one with its host. There is a profile for plain
OpenVPN and at most one more, for obfs4. Each knows its transport, bears name and address of the
gateway, has options exactly if its transport is pluggable, and was read from the text that is drawn
up for the entry. -/
theorem gateways_represent
    (hg : g ∈ (build provider preferences clientTimezone).gateways) :
    (∃ front item back b, provider.service.gateways = front ++ item :: back ∧
      (∀ e ∈ front, ∀ g', Gateway.build provider.service provider.secrets e preferences = .ok g' →
        g'.host ≠ g.host) ∧
      Gateway.build provider.service provider.secrets item preferences = .ok g.withoutLoad ∧
      GatewayEntry.ofJson item = .ok b.entry ∧
      Blueprint.make provider.service.directives provider.secrets b.entry provider.service.version
        preferences = .ok b ∧
      b.preferences = preferences ∧
      ∀ loads : List ReportedLoad, (loads.foldl Gateway.withLoad g).Represents b) ∧
    ∀ loads : List ReportedLoad,
      loads.foldl Gateway.withLoad g = { g with load := loads.getLast?.or g.load } := by
  have hmem : g.withoutLoad ∈ buildAll provider preferences := by
    rw [← withoutLoad_build provider preferences clientTimezone]
    exact List.mem_map_of_mem hg
  obtain ⟨front, item, back, hentries, hbuilt, hfirst⟩ := exists_split_of_mem_buildAll hmem
  have hbuild := gatewayOf?_eq_some_iff.1 hbuilt
  obtain ⟨entry, b, hentry, hmake, hrepresents⟩ := Gateway.represents_of_build hbuild
  obtain ⟨-, -, rfl, -, hpreferences⟩ := Blueprint.of_make hmake
  refine ⟨⟨front, item, back, b, hentries, fun e he g' hg' => ?_, hbuild, hentry, hmake,
    hpreferences, fun loads => ?_⟩, Gateway.foldl_withLoad g⟩
  · exact hfirst e he g' (gatewayOf?_eq_some_iff.2 hg')
  · rw [Gateway.foldl_withLoad]
    exact hrepresents.of_load _

/-- The profile of the second of two gateways, under any load. -/
theorem gateways_represent_sharedAddress : ∃ g p b, g ∈ SharedAddress.directory.gateways ∧
    g.host = "b.example" ∧ b.entry.host = "b.example" ∧ g.profile? .openvpn = some p ∧
    ∀ load : ReportedLoad, p.Represents (g.withLoad load) b .openvpn := by
  obtain ⟨g', g, hordered, -, hhost, p, -, hp⟩ := SharedAddress.exists_ordered
  have hg : g ∈ SharedAddress.directory.gateways := by
    refine mem_gateways_of_mem_ordered ?_
    rw [hordered]
    exact List.mem_cons_of_mem g' List.mem_cons_self
  obtain ⟨⟨front, item, back, b, -, -, -, -, -, -, hrepresents⟩, -⟩ := gateways_represent hg
  have hentry : b.entry.host = "b.example" := (hrepresents []).host.symm.trans hhost
  exact ⟨g, p, b, hg, hhost, hentry, hp, fun load => (hrepresents [load]).profiles .openvpn p hp⟩

end Directory

end VpnDirectory
