import VpnDirectory.Proofs.Directory.Building
import VpnDirectory.Proofs.Directory.Reach
import VpnDirectory.Proofs.Document.ServerOrder
import VpnDirectory.Proofs.Tunnel.Rendering

/-!
# Gateways in the order of a server

Of the hosts that a geo document names, a directory goes by those of its own gateways, each at its
first place, `Directory.keptHosts`. If there is one, the gateways of these hosts are offered in this
order, with the loads that are named first; if there is none, the document might as well not be
there.

* `Directory.ofGeo_eq_assemble` : a directory comes of its gateways, the first hosts that are known
  and the kind of the document.
* `Directory.selectFor_openvpn` : the gateways of the server's hosts are selected in their order.
* `Directory.ofGeo_insert` : what the document names besides makes no difference.
-/

namespace VpnDirectory

namespace Directory

variable {provider : Provider} {preferences : Preferences} {named : List NamedHost} {g : Gateway}

/-! ### Loads -/

theorem load_attachLoad (h : g.load = none) :
    (attachLoad named g).load = (named.find? (·.host == g.host)).bind (·.load) := by
  rw [attachLoad]
  split
  · next load hload => rw [hload]; rfl
  · next hload => rw [hload, h]

/-! ### Known hosts -/

variable {known : List String} {e : NamedHost} {front back : List NamedHost}

/-- The first known hosts are the known hosts without repetitions. -/
theorem hosts_firstNamed (known : List String) (named : List NamedHost) :
    (firstNamed known named).map (·.host) =
      ((named.map (·.host)).filter known.contains).eraseDups := by
  rw [firstNamed, keepFirst.map_key, List.filter_map]
  rfl

/-- What is named first for a known host is found among the first known hosts. -/
theorem find?_firstNamed {host : String} (h : host ∈ known) :
    (firstNamed known named).find? (·.host == host) = named.find? (·.host == host) := by
  rw [firstNamed, keepFirst.find?_key, List.find?_filter]
  congr 1
  funext e
  by_cases he : e.host = host
  · simp [he, h]
  · simp [he]

/-- Hosts that are not known and hosts that were named before make no difference. -/
theorem firstNamed_append_cons (h : e.host ∉ known ∨ e.host ∈ front.map (·.host)) :
    firstNamed known (front ++ e :: back) = firstNamed known (front ++ back) := by
  rw [firstNamed, firstNamed, List.filter_append, List.filter_append, List.filter_cons]
  split
  · next hknown =>
    have hfront : e.host ∈ (front.filter fun h => known.contains h.host).map (·.host) := by
      have hmem := h.resolve_left (by simpa using hknown)
      obtain ⟨f, hf, heq⟩ := List.mem_map.1 hmem
      exact List.mem_map.2 ⟨f, List.mem_filter.2 ⟨hf, by rwa [heq]⟩, heq⟩
    exact keepFirst.append_cons hfront
  · rfl

/-! ### Directories by what is named -/

/-- Every gateway has the load that is named for its host. -/
theorem load_of_mem_assemble {strategy : Strategy} {clientTimezone : Int}
    (h : g ∈ (assemble (buildAll provider preferences) named strategy preferences
      clientTimezone).gateways) :
    g.load = (named.find? (·.host == g.host)).bind (·.load) ∧
      g.host ∈ (buildAll provider preferences).map (·.host) := by
  rw [assemble] at h
  obtain ⟨g', hg', rfl⟩ := List.mem_map.1 h
  rw [load_attachLoad (load_of_mem_buildAll hg'), host_attachLoad]
  exact ⟨rfl, List.mem_map_of_mem hg'⟩

/-- The directory of a provider with a geo document, or without one. -/
def ofGeo (service : Service) (secrets : Secrets) (geo : Option Json) (preferences : Preferences)
    (clientTimezone : Int) : Directory :=
  build { service, order := geo.bind ServerOrder.ofJson?, secrets } preferences clientTimezone

/-- The gateways of a provider, which do not depend on a geo document. -/
def built (service : Service) (secrets : Secrets) (preferences : Preferences) : List Gateway :=
  buildAll { service, secrets } preferences

variable {service : Service} {secrets : Secrets} {geo : Option Json} {clientTimezone : Int}

theorem ofGeo_eq_assemble : ofGeo service secrets geo preferences clientTimezone =
    assemble (built service secrets preferences)
      (firstNamed ((built service secrets preferences).map (·.host))
        (geo.elim [] GeoDocument.named))
      (geo.elim .clientTimezone GeoDocument.strategy) preferences clientTimezone := by
  rw [ofGeo, build_eq]
  cases geo with
  | none => rfl
  | some doc =>
    cases horder : ServerOrder.ofJson? doc with
    | none =>
      have hnamed := GeoDocument.named_of_ofJson?_eq_none horder
      simp only [Option.bind_some, horder, Option.elim_some, hnamed]
      rfl
    | some order =>
      obtain ⟨hhosts, hstrategy⟩ := GeoDocument.named_of_ofJson? horder
      simp only [Option.bind_some, horder, Option.elim_some, ← hhosts, ← hstrategy]
      rfl

theorem hosts_ofGeo : (ofGeo service secrets geo preferences clientTimezone).gateways.map (·.host) =
    (built service secrets preferences).map (·.host) :=
  hosts_build { service, order := geo.bind ServerOrder.ofJson?, secrets } preferences clientTimezone

/-- Every gateway has the load that is named first for its host. -/
theorem load_of_mem_gateways
    (h : g ∈ (ofGeo service secrets geo preferences clientTimezone).gateways) :
    g.load = ((geo.elim [] GeoDocument.named).find? (·.host == g.host)).bind (·.load) := by
  rw [ofGeo_eq_assemble] at h
  obtain ⟨hload, hhost⟩ := load_of_mem_assemble h
  rw [hload, built, find?_firstNamed hhost]

theorem load_of_mem_named (hloads : geo.any GeoDocument.namesLoads = false)
    (h : e ∈ geo.elim [] GeoDocument.named) : e.load = none := by
  cases geo with
  | none => cases h
  | some doc => exact GeoDocument.load_of_mem_named hloads h

/-! ### Offering gateways in order -/

variable {d : Directory} {host : String} {hosts : List String}

/-- The known hosts among these, each at its first place. -/
def keptHosts (d : Directory) (named : List NamedHost) : List String :=
  ((named.map (·.host)).filter (d.gateways.map (·.host)).contains).eraseDups

theorem mem_hosts_of_mem_keptHosts {named : List NamedHost}
    (h : host ∈ d.keptHosts named) : host ∈ d.gateways.map (·.host) := by
  rw [keptHosts, List.mem_eraseDups, List.mem_filter] at h
  simpa using h.2

/-- In the order of a server, plain OpenVPN is offered by the gateways of its hosts. -/
theorem selectFor_openvpn {gs : List Gateway} (hwell : d.WellFormed)
    (hpresorted : d.strategy.isPresorted) (h : d.serverHosts.map d.gateway? = gs.map some)
    (n : Nat) : d.selectFor n .openvpn none = gs[n]? := by
  have hordered : d.ordered = gs := List.map_injective_iff.2 (Option.some_injective Gateway)
    ((hwell.map_some_ordered hpresorted).trans h)
  have hoffered : d.offered .openvpn none = gs := by
    rw [offered, fitting, hordered, List.filter_eq_self]
    intro g _
    rw [g.supports_openvpn]
    rfl
  rw [selectFor, hoffered]

theorem wellFormed_ofGeo (service : Service) (secrets : Secrets) (geo : Option Json)
    (preferences : Preferences) (clientTimezone : Int) :
    (ofGeo service secrets geo preferences clientTimezone).WellFormed :=
  wellFormed_build _ _ _

theorem serverHosts_ofGeo_eq_map :
    (ofGeo service secrets geo preferences clientTimezone).serverHosts =
      (firstNamed ((built service secrets preferences).map (·.host))
        (geo.elim [] GeoDocument.named)).map (·.host) := by
  rw [ofGeo_eq_assemble]
  exact serverHosts_assemble fun e he => mem_known_of_mem_firstNamed he

theorem serverHosts_ofGeo :
    (ofGeo service secrets geo preferences clientTimezone).serverHosts =
      (ofGeo service secrets geo preferences clientTimezone).keptHosts
        (geo.elim [] GeoDocument.named) := by
  rw [keptHosts, hosts_ofGeo, serverHosts_ofGeo_eq_map, hosts_firstNamed]

theorem strategy_ofGeo :
    (ofGeo service secrets geo preferences clientTimezone).strategy =
      if (ofGeo service secrets geo preferences clientTimezone).serverHosts = [] then
        .clientTimezone
      else geo.elim .clientTimezone GeoDocument.strategy := by
  rw [serverHosts_ofGeo_eq_map, ofGeo_eq_assemble, assemble]
  simp only [List.map_eq_nil_iff, List.isEmpty_iff]

theorem strategy_of_serverHosts_ne_nil
    (h : (ofGeo service secrets geo preferences clientTimezone).serverHosts ≠ []) :
    (ofGeo service secrets geo preferences clientTimezone).strategy =
      if geo.any GeoDocument.namesLoads then .serverLoad else .serverOrder := by
  rw [strategy_ofGeo, if_neg h]
  cases geo with
  | none => exact absurd serverHosts_ofGeo h
  | some doc => rfl

/-- With no known host named, a geo document makes no difference. -/
theorem ofGeo_eq_of_serverHosts_eq_nil
    (h : (ofGeo service secrets geo preferences clientTimezone).serverHosts = []) :
    ofGeo service secrets geo preferences clientTimezone =
      ofGeo service secrets none preferences clientTimezone := by
  rw [serverHosts_ofGeo_eq_map] at h
  rw [ofGeo_eq_assemble, ofGeo_eq_assemble, List.map_eq_nil_iff.1 h]
  rfl

/-- An item makes no difference if it names no host, or one that is not known or was named
before. -/
theorem ofGeo_insert {doc doc' item : Json} {front back : List Json}
    (hloads : GeoDocument.namesLoads doc' = GeoDocument.namesLoads doc)
    (hdoc : GeoDocument.items doc = front ++ back)
    (hdoc' : GeoDocument.items doc' = front ++ item :: back)
    (hitem : ∀ e, GeoDocument.named? (GeoDocument.namesLoads doc) item = some e →
      e.host ∉ (built service secrets preferences).map (·.host) ∨
        e.host ∈ (front.filterMap (GeoDocument.named? (GeoDocument.namesLoads doc))).map (·.host)) :
    ofGeo service secrets (some doc') preferences clientTimezone =
      ofGeo service secrets (some doc) preferences clientTimezone := by
  have hfirst : firstNamed ((built service secrets preferences).map (·.host))
      (GeoDocument.named doc') =
        firstNamed ((built service secrets preferences).map (·.host)) (GeoDocument.named doc) := by
    rw [GeoDocument.named, GeoDocument.named, hdoc, hdoc', hloads, List.filterMap_append,
      List.filterMap_append, List.filterMap_cons]
    split
    · rfl
    · next e he => exact firstNamed_append_cons (hitem e he)
  rw [ofGeo_eq_assemble, ofGeo_eq_assemble, Option.elim_some, Option.elim_some, hfirst,
    Option.elim_some, Option.elim_some, GeoDocument.strategy, GeoDocument.strategy, hloads]

/-- How the order of a server is resolved. With a known host the gateways are offered in the order
of the document, in any arithmetic and with the loads that it names first. Without one the directory
is that of a provider without a geo document. What the document names in between of no known or of
an earlier host, or in no form that counts, makes no difference. -/
theorem ofGeo_resolves (service : Service) (secrets : Secrets) (geo : Option Json)
    (preferences : Preferences) (clientTimezone : Int) :
    let d := ofGeo service secrets geo preferences clientTimezone
    let named := geo.elim [] GeoDocument.named
    let loads := geo.any GeoDocument.namesLoads
    (d.keptHosts named ≠ [] →
        (∃ gs : List Gateway, (d.keptHosts named).map d.gateway? = gs.map some ∧
          (∀ n, d.selectFor n .openvpn none = gs[n]?) ∧
          ∀ (arithmetic : Arithmetic) n, d.selectForIn arithmetic n .openvpn none = .ok gs[n]?) ∧
        d.strategy = (if loads then .serverLoad else .serverOrder) ∧
        ∀ g ∈ d.gateways,
          g.load = if loads then (named.find? (·.host == g.host)).bind (·.load) else none) ∧
      (d.keptHosts named = [] → d.strategy = .clientTimezone ∧ (∀ g ∈ d.gateways, g.load = none) ∧
        d = ofGeo service secrets none preferences clientTimezone) ∧
      ∀ (doc doc' item : Json) (front back : List Json), geo = some doc →
        GeoDocument.namesLoads doc' = GeoDocument.namesLoads doc →
        GeoDocument.items doc = front ++ back → GeoDocument.items doc' = front ++ item :: back →
        (∀ e, GeoDocument.named? loads item = some e → e.host ∉ d.gateways.map (·.host) ∨
          e.host ∈ (front.filterMap (GeoDocument.named? loads)).map (·.host)) →
        ofGeo service secrets (some doc') preferences clientTimezone = d := by
  intro d named loads
  have hserverHosts : d.serverHosts = d.keptHosts named := serverHosts_ofGeo
  have hload : ∀ g ∈ d.gateways, g.load = (named.find? (·.host == g.host)).bind (·.load) :=
    fun g hg => load_of_mem_gateways hg
  refine ⟨fun hne => ?_, fun hnil => ?_, ?_⟩
  · have hstrategy : d.strategy = if loads then .serverLoad else .serverOrder :=
      strategy_of_serverHosts_ne_nil (by rwa [← hserverHosts] at hne)
    have hpresorted : d.strategy.isPresorted := by
      rw [hstrategy]
      cases loads <;> rfl
    have hwell : d.WellFormed := wellFormed_ofGeo service secrets geo preferences clientTimezone
    obtain ⟨gs, hgs⟩ := hwell.exists_gateways fun host hhost => mem_hosts_of_mem_keptHosts hhost
    have hselect := selectFor_openvpn hwell hpresorted (by rw [hserverHosts, hgs])
    refine ⟨⟨gs, hgs, hselect, fun arithmetic n => ?_⟩, hstrategy, fun g hg => ?_⟩
    · rw [selectForIn_eq, isOrderInReach_of_isPresorted hpresorted, Arithmetic.answer_true, hselect]
    · rw [hload g hg]
      split
      · rfl
      · next hloads =>
        -- hosts that are named as plain texts have no loads
        cases hfind : named.find? (·.host == g.host) with
        | none => rfl
        | some e =>
          exact load_of_mem_named (Bool.eq_false_iff.2 hloads) (List.mem_of_find?_eq_some hfind)
  · have hempty : d.serverHosts = [] := by rw [hserverHosts, hnil]
    have hnone : d = ofGeo service secrets none preferences clientTimezone :=
      ofGeo_eq_of_serverHosts_eq_nil hempty
    refine ⟨?_, ?_, hnone⟩
    · exact strategy_ofGeo.trans (if_pos hempty)
    · intro g hg
      rw [hnone] at hg
      exact load_of_mem_gateways hg
  · rintro doc doc' item front back rfl hloads hdoc hdoc' hitem
    refine ofGeo_insert hloads hdoc hdoc' fun e he => ?_
    rw [← hosts_ofGeo]
    exact hitem e he

end Directory

/-! ### Two gateways -/

namespace TwoGateways

/-- A gateway entry with a host alone. -/
def entry (host : String) : Json := .object [("host", .text host)]

def service : Service := { gateways := [entry "a.example", entry "b.example"] }

/-- A host that is not known, a text where an object counts, and a host that is named twice. -/
def geo : Json := .object [("sorted_gateways", .array [
  .object [("host", .text "z.example")],
  .object [("host", .text "b.example"), ("overload", .bool true)],
  .text "a.example",
  .object [("host", .text "a.example")],
  .object [("host", .text "b.example")]])]

theorem exists_build (host : String) :
    ∃ g, Gateway.build service {} (entry host) {} = .ok g ∧ g.host = host := by
  obtain ⟨g, hg, hhost, -⟩ :=
    Gateway.exists_build_of_bare service (entry host) rfl (by decide) rfl rfl {}
  exact ⟨g, hg, hhost⟩

theorem hosts_built :
    (Directory.built service {} {}).map (·.host) = ["a.example", "b.example"] := by
  obtain ⟨g, hg, hhost⟩ := exists_build "a.example"
  obtain ⟨g', hg', hhost'⟩ := exists_build "b.example"
  -- both are kept, since their hosts differ
  have hne : g'.host ≠ g.host := by rw [hhost, hhost']; decide
  have hbuilt : Directory.built service {} {} = [g, g'] := by
    unfold Directory.built Directory.buildAll Directory.gatewayOf?
    change keepFirst _ (List.filterMap _ [entry "a.example", entry "b.example"]) = _
    simp [hg, hg', keepFirst, Except.toOption, hne]
  rw [hbuilt, List.map_cons, List.map_singleton, hhost, hhost']

end TwoGateways

/-- The host that is named twice stands at its first place and has its first load. -/
theorem Directory.ofGeo_resolves_twoGateways :
    let d := ofGeo TwoGateways.service {} (some TwoGateways.geo) {} 0
    d.keptHosts (GeoDocument.named TwoGateways.geo) = ["b.example", "a.example"] ∧
      (d.selectFor 0 .openvpn none).map (·.host) = some "b.example" ∧
      (d.selectFor 1 .openvpn none).map (·.host) = some "a.example" ∧
      d.selectFor 2 .openvpn none = none ∧ d.strategy = .serverLoad ∧
      ∀ g ∈ d.gateways, g.host = "b.example" → g.load.map (·.overload) = some true := by
  have hkept : (ofGeo TwoGateways.service {} (some TwoGateways.geo) {} 0).keptHosts
      ((some TwoGateways.geo).elim [] GeoDocument.named) = ["b.example", "a.example"] := by
    rw [keptHosts, hosts_ofGeo, TwoGateways.hosts_built]
    rfl
  obtain ⟨⟨gs, hgs, hselect, -⟩, hstrategy, hload⟩ :=
    (ofGeo_resolves TwoGateways.service {} (some TwoGateways.geo) {} 0).1
      (by rw [hkept]; exact List.cons_ne_nil _ _)
  rw [hkept] at hgs
  have hwell := wellFormed_ofGeo TwoGateways.service {} (some TwoGateways.geo) {} 0
  generalize ofGeo TwoGateways.service {} (some TwoGateways.geo) {} 0 = d at *
  have hlength : gs.length = 2 := by simpa using (congrArg List.length hgs).symm
  obtain ⟨g, g', rfl⟩ := List.length_eq_two.1 hlength
  obtain ⟨hg, hg'⟩ : d.gateway? "b.example" = some g ∧ d.gateway? "a.example" = some g' := by
    simpa using hgs
  refine ⟨hkept, ?_, ?_, hselect 2, hstrategy, ?_⟩
  · rw [hselect]
    exact congrArg some (hwell.host_of_gateway? hg)
  · rw [hselect]
    exact congrArg some (hwell.host_of_gateway? hg')
  · intro g hg hb
    rw [hload g hg, hb]
    rfl

end VpnDirectory
