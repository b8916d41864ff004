import VpnDirectory.Proofs.Directory.Selection
import VpnDirectory.Proofs.Location

/-!
# Locations and selection

The locations of a directory are drawn up in one walk through the gateways that are offered.
Selecting the gateways of a location one after another is another walk, and both agree.

* `Directory.locationsOf_eq` : there is a location for every name among the gateways, in the order
  in which the names come up, and it sums up the gateways of its name.
* `Directory.sum_gatewayCount_locationsOf` : every gateway is counted once.
* `Directory.locations_partition` : the locations of a directory by what is selected from it, in any
  arithmetic.
-/

namespace VpnDirectory

namespace Directory

variable {α : Type} [LoadNumber α]
variable {d : Directory} {g : Gateway} {gs : List Gateway} {t : Transport} {name : String}

/-! ### One location -/

/-- What a gateway adds to its location. -/
def share (d : Directory) (g : Gateway) : α × List Transport :=
  (g.fullness d.clientTimezone, g.transports)

/-- Gateways in sum, as a location. -/
def sumOf (d : Directory) (name : String) (gs : List Gateway) : Location α :=
  (Location.empty name (d.preferences.preferredCity == some name)).addAll (gs.map d.share)

theorem sumOf_eq (d : Directory) (name : String) (gs : List Gateway) :
    (d.sumOf name gs : Location α) = {
    name
    averageLoad := Location.runningMean (gs.map (·.fullness d.clientTimezone))
    gatewayCount := gs.length
    isSelected := d.preferences.preferredCity == some name
    transports := (d.sumOf name gs : Location α).transports } := by
  have hall := Location.addAll_eq
    (Location.empty (α := α) name (d.preferences.preferredCity == some name)) (gs.map d.share)
  rw [List.map_map, List.length_map] at hall
  rw [sumOf, hall]
  simp only [Location.empty, Nat.zero_add]
  rfl

theorem name_sumOf (d : Directory) (name : String) (gs : List Gateway) :
    (d.sumOf name gs : Location α).name = name := by rw [sumOf_eq]

theorem mem_transports_sumOf :
    t ∈ (d.sumOf name gs : Location α).transports ↔ ∃ g ∈ gs, t ∈ g.transports := by
  rw [sumOf, Location.mem_transports_addAll]
  simp [Location.empty, share]

/-- The gateways of a location when one more gateway has come in, of whatever location. -/
theorem sumOf_filter_concat (d : Directory) (name : String) (gs : List Gateway) (g : Gateway) :
    (d.sumOf name ((gs ++ [g]).filter (·.name == name)) : Location α) =
      if name = g.name then
        (d.sumOf name (gs.filter (·.name == name))).add (g.fullness d.clientTimezone) g.transports
      else d.sumOf name (gs.filter (·.name == name)) := by
  rw [List.filter_append]
  by_cases hname : name = g.name
  · have hsingle : [g].filter (·.name == name) = [g] := by simp [hname]
    rw [hsingle, if_pos hname, sumOf, List.map_append, List.map_singleton, Location.addAll_concat]
    rfl
  · have hnone : [g].filter (·.name == name) = [] := by simp [Ne.symm hname]
    rw [hnone, List.append_nil, if_neg hname]

/-! ### All locations -/

/-- A gateway goes to the location of its name, or starts a new one at the end. -/
theorem addTo_map {names : List String} {f : String → Location α} (hnodup : names.Nodup)
    (hf : ∀ n, (f n).name = n) : d.addTo g (g.fullness d.clientTimezone) (names.map f) =
      if g.name ∈ names then names.map fun n =>
        if n = g.name then (f n).add (g.fullness d.clientTimezone) g.transports else f n
      else names.map f ++ [(d.sumOf g.name [g] : Location α)] := by
  induction names with
  | nil => rfl
  | cons n names ih =>
    obtain ⟨hn, hnames⟩ := List.nodup_cons.1 hnodup
    rw [List.map_cons, addTo, hf]
    by_cases hname : n = g.name
    · -- the names behind it are others
      have hrest : (names.map fun n =>
          if n = g.name then (f n).add (g.fullness d.clientTimezone) g.transports else f n) =
            names.map f := by
        refine List.map_congr_left fun m hm => ?_
        have hne : m ≠ g.name := by
          rintro rfl
          exact hn (hname ▸ hm)
        rw [if_neg hne]
      rw [if_pos hname, if_pos (by simp [hname]), List.map_cons, if_pos hname, hrest]
    · rw [if_neg hname, ih hnames]
      by_cases hmem : g.name ∈ names
      · rw [if_pos hmem, if_pos (List.mem_cons_of_mem n hmem), List.map_cons, if_neg hname]
      · rw [if_neg hmem, if_neg (by simp [Ne.symm hname, hmem]), List.cons_append]

/-- A name that has come up before does not come up again. -/
theorem eraseDups_concat (names : List String) (name : String) :
    (names ++ [name]).eraseDups =
      if name ∈ names then names.eraseDups else names.eraseDups ++ [name] := by
  rw [List.eraseDups_append, List.removeAll, List.filter_singleton, List.elem_eq_mem]
  by_cases hmem : name ∈ names
  · simp [hmem]
  · simp [hmem, List.eraseDups_cons]

theorem nodup_eraseDups_names (gs : List Gateway) : (gs.map (·.name)).eraseDups.Nodup := by
  rw [← keepFirst.map_key]
  exact List.pairwise_map.2 keepFirst.pairwise_ne

theorem locationsOf_concat (d : Directory) (gs : List Gateway) (g : Gateway) :
    (d.locationsOf (gs ++ [g]) : List (Location α)) =
      d.addTo g (g.fullness d.clientTimezone) (d.locationsOf gs) := List.foldl_concat _ _ _ _

/-- There is a location for every name among the gateways, in the order in which the names come up,
and it sums up the gateways of its name. -/
theorem locationsOf_eq (d : Directory) (gs : List Gateway) :
    (d.locationsOf gs : List (Location α)) =
      (gs.map (·.name)).eraseDups.map fun name => d.sumOf name (gs.filter (·.name == name)) := by
  -- the induction is on the walk, one more gateway having come in at the end
  induction gs using List.reverseRecOn with
  | nil => rfl
  | append_singleton gs g ih =>
    rw [locationsOf_concat, ih, addTo_map (nodup_eraseDups_names gs) fun n => name_sumOf d n _,
      List.map_append, List.map_singleton, eraseDups_concat]
    simp only [sumOf_filter_concat, List.mem_eraseDups]
    by_cases hmem : g.name ∈ gs.map (·.name)
    · rw [if_pos hmem, if_pos hmem]
    · have hfirst : gs.filter (·.name == g.name) = [] := by
        refine List.filter_eq_nil_iff.2 fun g' hg' heq => hmem ?_
        rw [← eq_of_beq heq]
        exact List.mem_map_of_mem hg'
      rw [if_neg hmem, if_neg hmem, List.map_append, List.map_singleton, if_pos rfl, hfirst]
      congr 1
      refine List.map_congr_left fun n hn => ?_
      have hne : n ≠ g.name := by
        rintro rfl
        exact hmem (List.mem_eraseDups.1 hn)
      rw [if_neg hne]

theorem names_locationsOf (d : Directory) (gs : List Gateway) :
    (d.locationsOf gs : List (Location α)).map (·.name) = (gs.map (·.name)).eraseDups := by
  rw [locationsOf_eq, List.map_map]
  have hname : (fun l : Location α => l.name) ∘
      (fun name => d.sumOf name (gs.filter (·.name == name))) = id :=
    funext fun name => name_sumOf d name _
  rw [hname, List.map_id]

theorem mem_locationsOf_iff {l : Location α} : l ∈ d.locationsOf gs ↔
    l = d.sumOf l.name (gs.filter (·.name == l.name)) ∧ ∃ g ∈ gs, g.name = l.name := by
  rw [locationsOf_eq, List.mem_map]
  simp only [List.mem_eraseDups, List.mem_map]
  constructor
  · rintro ⟨name, hname, rfl⟩
    rw [name_sumOf]
    exact ⟨rfl, hname⟩
  · rintro ⟨hl, hname⟩
    exact ⟨l.name, hname, hl.symm⟩

/-- One more gateway makes one more, wherever it goes. -/
theorem sum_gatewayCount_addTo (g : Gateway) (fullness : α) (ls : List (Location α)) :
    ((d.addTo g fullness ls).map (·.gatewayCount)).sum = (ls.map (·.gatewayCount)).sum + 1 := by
  induction ls with
  | nil => rfl
  | cons l ls ih =>
    rw [addTo]
    split
    · simp only [List.map_cons, List.sum_cons, Location.add]
      omega
    · simp only [List.map_cons, List.sum_cons, ih]
      omega

theorem sum_gatewayCount_locationsOf (d : Directory) (gs : List Gateway) :
    ((d.locationsOf gs : List (Location α)).map (·.gatewayCount)).sum = gs.length := by
  induction gs using List.reverseRecOn with
  | nil => rfl
  | append_singleton gs g ih =>
    rw [locationsOf_concat, sum_gatewayCount_addTo, ih, List.length_append, List.length_singleton]

/-! ### The locations of a directory -/

/-- The location of a name sums up the gateways that are offered under it. -/
theorem mem_locations_iff {l : Location α} : l ∈ d.locations ↔
    l = d.sumOf l.name (d.offered d.transport (some l.name)) ∧
      d.offered d.transport (some l.name) ≠ [] := by
  rw [locations, mem_locationsOf_iff, offered_eq_filter d d.transport (some l.name)]
  simp

theorem isSome_location?_iff :
    (d.location? name : Option (Location α)).isSome ↔ d.offered d.transport (some name) ≠ [] := by
  rw [location?, List.find?_isSome]
  constructor
  · rintro ⟨l, hl, hname⟩
    rw [← eq_of_beq hname]
    exact (mem_locations_iff.1 hl).2
  · intro hne
    refine ⟨d.sumOf name (d.offered d.transport (some name)), mem_locations_iff.2 ?_, ?_⟩
    · rw [name_sumOf]
      exact ⟨rfl, hne⟩
    · rw [name_sumOf, beq_self_eq_true]

/-- The locations of a directory by what is selected from it. Their names are those of the gateways
that are selected one after another, in the order in which they come up. A location counts the
gateways that are selected in it, has the transports of any of them and the running mean of their
loads, and is marked if it is the preferred city. No gateway is counted twice or left out, and there
is a location for a name exactly if a gateway is selected in it. All of this is so in wrapping
arithmetic; in checked arithmetic the answers are the same, unless they go by differences that do
not fit, and then there are none. -/
theorem locations_partition (provider : Provider) (preferences : Preferences)
    (clientTimezone : Int) :
    let d := build provider preferences clientTimezone
    let locations : List (Location α) := d.locations
    (∃ all : List Gateway, Enumerates (fun n => d.select n none) all ∧
      (locations.map (·.name)).Nodup ∧
      locations.map (·.name) = (all.map (·.name)).eraseDups ∧
      (∀ l ∈ locations, ∃ gs : List Gateway,
        Enumerates (fun n => d.select n (some l.name)) gs ∧ l.gatewayCount = gs.length ∧
        (∀ t, t ∈ l.transports ↔ ∃ g ∈ gs, t ∈ g.transports) ∧
        l.transports.Sublist Transport.all ∧
        l.averageLoad = Location.runningMean (gs.map (·.fullness clientTimezone)) ∧
        (l.isSelected ↔ preferences.preferredCity = some l.name)) ∧
      (locations.map (·.gatewayCount)).sum = all.length ∧
      ∀ name, (d.location? name : Option (Location α)).isSome ↔
        (d.select 0 (some name)).isSome) ∧
      ∀ arithmetic : Arithmetic,
        d.locationsIn arithmetic =
          arithmetic.answer (d.areLocationsInReach d.transport none) locations ∧
        (∀ name, d.locationIn? arithmetic name = arithmetic.answer
          (d.areLocationsInReach d.transport none) (d.location? name : Option (Location α))) ∧
        ∀ n city, d.selectIn arithmetic n city =
          arithmetic.answer d.isOrderInReach (d.select n city) := by
  intro d locations
  have hwf : d.WellFormed := wellFormed_build provider preferences clientTimezone
  have hpreferences : d.preferences = preferences := preferences_build _ _ _
  have hclient : d.clientTimezone = clientTimezone := clientTimezone_build _ _ _
  have henumerates (city : Option String) :
      Enumerates (fun n => d.select n city) (d.offered d.transport city) :=
    hwf.enumerates_offered d.transport city
  have hnames : locations.map (·.name) =
      ((d.offered d.transport none).map (·.name)).eraseDups := names_locationsOf d _
  refine ⟨⟨d.offered d.transport none, henumerates none, ?_, hnames, fun l hl => ?_,
    sum_gatewayCount_locationsOf d _, fun name => ?_⟩, fun arithmetic =>
      ⟨locationsIn_eq arithmetic d, locationIn?_eq arithmetic d, selectIn_eq arithmetic d⟩⟩
  · rw [hnames]
    exact nodup_eraseDups_names _
  · have hsum := (mem_locations_iff.1 hl).1
    have htransports (t : Transport) :
        t ∈ (d.sumOf l.name (d.offered d.transport (some l.name)) : Location α).transports ↔
          ∃ g ∈ d.offered d.transport (some l.name), t ∈ g.transports := mem_transports_sumOf
    have hfields := sumOf_eq (α := α) d l.name (d.offered d.transport (some l.name))
    rw [← hsum, hclient, hpreferences] at hfields
    rw [← hsum] at htransports
    have hselected : l.isSelected = (preferences.preferredCity == some l.name) :=
      congrArg (·.isSelected) hfields
    refine ⟨_, henumerates (some l.name), congrArg (·.gatewayCount) hfields, htransports, ?_,
      congrArg (·.averageLoad) hfields, ?_⟩
    · rw [hsum]
      exact Location.transports_addAll_sublist (List.nil_sublist _)
    · rw [hselected, beq_iff_eq]
  · rw [isSome_location?_iff, (henumerates (some name)).isSome_iff 0]
    exact List.length_pos_iff.symm

end Directory

/-! ### Two cities in turn -/

namespace TwoCities

/-- A gateway entry with a host and a location. -/
def entry (host location : String) : Json :=
  .object [("host", .text host), ("location", .text location)]

def service : Service where
  gateways := [entry "a.example" "ams", entry "b.example" "par", entry "c.example" "ams"]
  locations := [("ams", .object [("name", .text "Amsterdam")]),
    ("par", .object [("name", .text "Paris")])]

/-- The client prefers the second city. -/
def preferences : Preferences := { preferredCity := some "Paris" }

theorem exists_gateway (host location : String) :
    ∃ g, Directory.gatewayOf? { service } preferences (entry host location) = some g ∧
      g.host = host ∧ g.name = (service.location location).name ∧
      g.timezone = (service.location location).timezone := by
  obtain ⟨g, hg, hfields⟩ := Gateway.exists_build_of_bare service (entry host location) rfl
    (by decide) rfl rfl preferences
  exact ⟨g, Directory.gatewayOf?_eq_some_iff.2 hg, hfields⟩

/-- All of the gateways are equally near, so that they stay in their order. -/
theorem names_ordered : (Directory.build { service } preferences 0).ordered.map (·.name) =
    ["Amsterdam", "Paris", "Amsterdam"] := by
  obtain ⟨a, ha, hhost, hname, htimezone⟩ := exists_gateway "a.example" "ams"
  obtain ⟨b, hb, hhost', hname', htimezone'⟩ := exists_gateway "b.example" "par"
  obtain ⟨c, hc, hhost'', hname'', htimezone''⟩ := exists_gateway "c.example" "ams"
  have hgateways : Directory.buildAll { service } preferences = [a, b, c] := by
    have hbuilt : service.gateways.map (Directory.gatewayOf? { service } preferences) =
        [some a, some b, some c] := by
      rw [← ha, ← hb, ← hc]
      rfl
    refine Directory.buildAll_of_nodup hbuilt ?_
    simp [hhost, hhost', hhost'']
  have hranked : (Directory.build { service } preferences 0).ordered = rank 0 [a, b, c] := by
    rw [Directory.build_eq, hgateways]
    rfl
  have hzero : a.timezone = 0 ∧ b.timezone = 0 ∧ c.timezone = 0 :=
    ⟨htimezone, htimezone', htimezone''⟩
  have hkept : rank 0 [a, b, c] = [a, b, c] := by
    refine rank_of_pairwise ?_
    simp [hzero]
  rw [hranked, hkept, List.map_cons, List.map_cons, List.map_singleton, hname, hname', hname'']
  rfl

end TwoCities

namespace Directory

/-- The gateways of the first city stand on both sides of the second one. -/
theorem locations_partition_twoCities :
    let d := build { service := TwoCities.service } TwoCities.preferences 0
    d.locations.map (·.name) = ["Amsterdam", "Paris"] ∧
      (d.locations.map (·.gatewayCount)).sum = 3 ∧
      (d.location? "Rome").isSome = false ∧ d.select 0 (some "Rome") = none ∧
      ∃ l ∈ d.locations, l.name = "Amsterdam" ∧ l.isSelected = false ∧ l.gatewayCount = 2 ∧
        ∀ n, (d.select n (some "Amsterdam")).isSome ↔ n < 2 := by
  intro d
  obtain ⟨⟨all, henumerates, -, hnames, hlocation, hsum, hfound⟩, -⟩ :=
    locations_partition (α := Double) { service := TwoCities.service } TwoCities.preferences 0
  have hwf : d.WellFormed := wellFormed_build _ _ _
  have htransport : d.transport = .openvpn := (transport_build _ _ _).trans rfl
  have hoffered : all = d.offered d.transport none :=
    henumerates.unique (hwf.enumerates_offered d.transport none)
  have hall : all = d.ordered := by
    rw [hoffered, htransport]
    exact List.filter_eq_self.2 fun g _ => by simp [g.supports_openvpn]
  have hthree : all.map (·.name) = ["Amsterdam", "Paris", "Amsterdam"] := by
    rw [hall, TwoCities.names_ordered]
  have htwo : d.locations.map (·.name) = ["Amsterdam", "Paris"] := by
    rw [hnames, hthree]
    decide
  have hrome : (d.location? "Rome").isSome = false := by
    rw [location?, ← Bool.not_eq_true, List.find?_isSome]
    rintro ⟨l, hl, hname⟩
    have hmem := List.mem_map_of_mem hl (f := (·.name))
    rw [htwo, eq_of_beq hname] at hmem
    exact absurd hmem (by decide)
  refine ⟨htwo, ?_, hrome, ?_, ?_⟩
  · rw [hsum, ← List.length_map (·.name), hthree]
    rfl
  · refine Option.not_isSome_iff_eq_none.1 fun hsome => ?_
    rw [(hfound "Rome").2 hsome] at hrome
    cases hrome
  · have hmem : "Amsterdam" ∈ d.locations.map (·.name) := by simp [htwo]
    obtain ⟨l, hl, hname⟩ := List.mem_map.1 hmem
    obtain ⟨gs, hgs, hcount, -, -, -, hselected⟩ := hlocation l hl
    rw [hname] at hgs hselected
    have hlength : gs.length = 2 := by
      have hcity : gs = all.filter (·.name == "Amsterdam") := by
        rw [hgs.unique (hwf.enumerates_offered d.transport (some "Amsterdam")), offered_eq_filter,
          hoffered]
        rfl
      calc gs.length = ((all.map (·.name)).filter (· == "Amsterdam")).length := by
            rw [hcity, List.filter_map, List.length_map]
            rfl
        _ = 2 := by
            rw [hthree]
            rfl
    refine ⟨l, hl, hname, ?_, hcount.trans hlength, fun n => ?_⟩
    · rw [← Bool.not_eq_true, hselected]
      decide
    · rw [← hlength]
      exact hgs.isSome_iff n

end Directory

end VpnDirectory
