import VpnDirectory.Proofs.Directory.Agreement

/-!
# Ranking by time zone

Without an order of a server, gateways are ranked by their distance from the client.

* `Clock.distance_congr` : of the time zone of a client only the time of day counts, where the
  differences fit.
* `Directory.agree_of_timezone` : for clients that are whole days apart directories agree, if all of
  their gateways are in reach of both.
* `Directory.ranking_of_timezone` : the ranking is stable and complete, and such clients are given
  the same answers to everything that is asked of a directory.
-/

namespace VpnDirectory

variable {α : Type} [LoadNumber α] {client client' : Int} {gateways : List Gateway}

/-! ### Clients that are whole days apart -/

/-- Are all of the gateways in reach of a client? -/
def AllInReach (client : Int) (gateways : List Gateway) : Prop :=
  ∀ g ∈ gateways, Clock.inReach client g.timezone

theorem AllInReach.isRankInReach (h : AllInReach client gateways) :
    isRankInReach client gateways := by
  rw [VpnDirectory.isRankInReach, List.all_eq_true.2 h, Bool.or_true]

theorem rank_congr (h : client % Clock.hours = client' % Clock.hours)
    (hreach : AllInReach client gateways) (hreach' : AllInReach client' gateways) :
    rank client gateways = rank client' gateways := by
  have hdistances : (gateways.map fun g => Clock.distance client g.timezone) =
      gateways.map fun g => Clock.distance client' g.timezone :=
    List.map_congr_left fun g hg => Clock.distance_congr h (hreach g hg) (hreach' g hg)
  rw [rank, rank, rankNumbers, rankNumbers, hdistances]

theorem Gateway.fullness_congr {g : Gateway} (h : client % Clock.hours = client' % Clock.hours)
    (hreach : Clock.inReach client g.timezone) (hreach' : Clock.inReach client' g.timezone) :
    (g.fullness client : α) = g.fullness client' := by
  unfold fullness Clock.estimate
  rw [Clock.distance_congr h hreach hreach']

namespace Directory

variable {d : Directory} {provider : Provider} {preferences : Preferences}

theorem isOrderInReach_of_allInReach (h : AllInReach d.clientTimezone d.gateways) :
    d.isOrderInReach := by
  rw [isOrderInReach, h.isRankInReach, Bool.or_true]

/-- For clients that are whole days apart directories agree, if all of their gateways are in reach
of both. -/
theorem agree_of_timezone (h : d.clientTimezone % Clock.hours = client % Clock.hours)
    (hreach : AllInReach d.clientTimezone d.gateways) (hreach' : AllInReach client d.gateways) :
    Agree d (d.forClient client) := by
  have hclient : (d.forClient client).clientTimezone = client := rfl
  refine ⟨⟨?_, ?_, fun _ => rfl, rfl⟩, fun g hg _ => ?_, fun g hg => ?_⟩
  · unfold ordered forClient
    dsimp only
    rw [rank_congr h hreach hreach']
  · have hin := isOrderInReach_of_allInReach (d := d) hreach
    have hin' := isOrderInReach_of_allInReach (d := d.forClient client) hreach'
    rw [hin, hin']
  · have hmem := mem_gateways_of_mem_ordered hg
    exact Clock.distance_congr h (hreach g hmem) (hreach' g hmem)
  · have hmem := mem_gateways_of_mem_ordered hg
    rw [Gateway.isLoadInReach, Gateway.isLoadInReach, hclient, hreach g hmem, hreach' g hmem]

/-! ### Commands -/

theorem areLocationsInReach_of_allInReach (h : AllInReach d.clientTimezone d.gateways)
    (t : Transport) (city : Option String) : d.areLocationsInReach t city := by
  rw [areLocationsInReach, isOrderInReach_of_allInReach h, Bool.true_and, List.all_eq_true]
  intro g hg
  rw [Gateway.isLoadInReach, h g (mem_gateways_of_mem_ordered (mem_offered_iff.1 hg).1),
    Bool.or_true]

/-- If all of the gateways are in reach, every command ends in any arithmetic. -/
theorem ending_ne_outOfReach (h : AllInReach d.clientTimezone d.gateways) (arithmetic : Arithmetic)
    (command : Command) :
    (Report.directoryOutcome arithmetic d command).ending ≠ .outOfReach := by
  cases command with
  | gateways transport city =>
    rw [Report.directoryOutcome_gateways, isOrderInReach_of_allInReach h,
      Arithmetic.goesThrough_true, if_pos rfl]
    simp
  | locations transport asJson =>
    have hlocations : ∃ ls, Report.locationsFor arithmetic d transport = .ok ls := by
      cases transport with
      | none =>
        refine ⟨d.locations, ?_⟩
        rw [Report.locationsFor, locationsIn_eq, areLocationsInReach_of_allInReach h,
          Arithmetic.answer_true]
      | some t =>
        refine ⟨d.sortedLocations t, ?_⟩
        rw [Report.locationsFor, sortedLocationsIn_eq, areLocationsInReach_of_allInReach h,
          Arithmetic.answer_true]
    obtain ⟨ls, hls⟩ := hlocations
    rw [Report.directoryOutcome, hls]
    simp
  | profile host t =>
    rw [Report.directoryOutcome, Report.profileOutcome]
    split
    · simp [Outcome.failed]
    · split
      · simp [Outcome.failed]
      · dsimp only
        split <;> simp
  | capabilities => simp [Report.directoryOutcome]

/-! ### Answers -/

/-- Ranking by time zone is stable, complete, and goes by the time of day alone. The gateways of a
ranking are those of the list, their distances do not decrease, and those at one distance stay in
their order; it can be given by numbers, of which every place before the end of the list has one and
no later place. The ranking is there in checked arithmetic, too, if the time zones are in reach.
Clients whose time zones differ by whole days are given the same answers to all questions about
selection, places, locations and loads, and to every command, if they are in reach of all of the
gateways. -/
theorem ranking_of_timezone :
    (∀ (client : Int) (gateways : List Gateway),
      ((rank client gateways).Perm gateways ∧
        ((rank client gateways).Pairwise fun a b =>
          Clock.distance client a.timezone ≤ Clock.distance client b.timezone) ∧
        ∀ k, (rank client gateways).filter (fun g => Clock.distance client g.timezone = k) =
          gateways.filter fun g => Clock.distance client g.timezone = k) ∧
      ((rankNumbers client gateways).Perm (List.range gateways.length) ∧
        (rankNumbers client gateways).Pairwise (Precedes client gateways)) ∧
      (∀ n, numbered? gateways (rankNumbers client gateways) n = (rank client gateways)[n]? ∧
        (numbered? gateways (rankNumbers client gateways) n = none ↔ gateways.length ≤ n)) ∧
      (∀ arithmetic : Arithmetic, rankNumbersIn arithmetic client gateways =
        arithmetic.answer (isRankInReach client gateways) (rankNumbers client gateways)) ∧
      (AllInReach client gateways → isRankInReach client gateways ∧
        ∀ g ∈ gateways, Clock.distance client g.timezone = Clock.around (client - g.timezone))) ∧
    ∀ (provider : Provider) (preferences : Preferences) (client client' : Int),
      client % Clock.hours = client' % Clock.hours →
      let d := build provider preferences client
      let d' := build provider preferences client'
      (d.strategy = d'.strategy ∧ (∀ host, d.gateway? host = d'.gateway? host) ∧
        ∀ address, d.nameForAddress? address = d'.nameForAddress? address) ∧
      ((∀ g ∈ d.gateways, Clock.inReach client g.timezone ∧ Clock.inReach client' g.timezone) →
        (d.ordered = d'.ordered ∧ (∀ n city, d.select n city = d'.select n city) ∧
          (∀ n t city, d.selectFor n t city = d'.selectFor n t city) ∧
          (∀ n, d.selectPreferred n = d'.selectPreferred n) ∧
          ∀ p, d.position p = d'.position p) ∧
        ((d.locations : List (Location α)) = d'.locations ∧
          (∀ t, (d.sortedLocations t : List (Location α)) = d'.sortedLocations t) ∧
          ∀ name, (d.location? name : Option (Location α)) = d'.location? name) ∧
        ((∀ g ∈ d.gateways, (g.fullness client : α) = g.fullness client') ∧
          ∀ name t, d.loadOf (α := α) name t = d'.loadOf (α := α) name t) ∧
        ∀ arithmetic : Arithmetic, AnswersAlike arithmetic d d' ∧
          ∀ command, (Report.directoryOutcome arithmetic d command).ending ≠ .outOfReach) := by
  constructor
  · intro client gateways
    refine ⟨⟨rank_perm client gateways, pairwise_rank client gateways, filter_rank client gateways⟩,
      ⟨rankNumbers_perm client gateways, pairwise_rankNumbers client gateways⟩, fun n => ?_,
      fun arithmetic => rankNumbersIn_eq arithmetic client gateways, fun hreach => ?_⟩
    · exact ⟨numbered?_rankNumbers client gateways n, numbered?_rankNumbers_eq_none_iff n⟩
    · exact ⟨hreach.isRankInReach, fun g hg => Clock.distance_of_inReach (hreach g hg)⟩
  · intro provider preferences client client' h d d'
    have hclient : d.clientTimezone = client := clientTimezone_build provider preferences client
    have hother : d' = d.forClient client' := (forClient_build _ _ _ _).symm
    refine ⟨?_, fun hreach => ?_⟩
    · rw [hother]
      exact ⟨rfl, fun _ => rfl, fun _ => rfl⟩
    · have hd : AllInReach client d.gateways := fun g hg => (hreach g hg).1
      have hd' : AllInReach client' d.gateways := fun g hg => (hreach g hg).2
      have hagree : Agree d d' := by
        rw [hother]
        exact agree_of_timezone (by rwa [hclient]) (by rwa [hclient]) hd'
      exact ⟨⟨hagree.ordered, hagree.select_eq, hagree.selectFor_eq, hagree.selectPreferred_eq,
        hagree.position_eq⟩, ⟨hagree.locations_eq, hagree.sortedLocations_eq, hagree.location?_eq⟩,
        ⟨fun g hg => Gateway.fullness_congr h (hd g hg) (hd' g hg), hagree.loadOf_eq⟩,
        fun arithmetic => ⟨hagree.answersAlike,
          ending_ne_outOfReach (by rwa [hclient]) arithmetic⟩⟩

end Directory

/-! ### Two cities at the same distance -/

namespace ThreeZones

/-- A gateway entry with a host and a location. -/
def entry (host location : String) : Json :=
  .object [("host", .text host), ("location", .text location)]

/-- Two hours after universal time the last two cities are equally near. -/
def service : Service where
  gateways := [entry "a.example" "sea", entry "b.example" "mow", entry "c.example" "ams"]
  locations := [("sea", .object [("name", .text "Seattle"), ("timezone", .text "-7")]),
    ("mow", .object [("name", .text "Moscow"), ("timezone", .text "+3")]),
    ("ams", .object [("name", .text "Amsterdam"), ("timezone", .text "+1")])]

theorem exists_gateway (host location : String) :
    ∃ g, Directory.gatewayOf? { service } {} (entry host location) = some g ∧
      g.host = host ∧ g.timezone = (service.location location).timezone := by
  obtain ⟨g, hg, hhost, -, htimezone⟩ := Gateway.exists_build_of_bare service (entry host location)
    rfl (by decide) rfl rfl {}
  exact ⟨g, Directory.gatewayOf?_eq_some_iff.2 hg, hhost, htimezone⟩

/-- The gateways with the hours that they are ahead of universal time. -/
theorem exists_gateways : ∃ a b c : Gateway, Directory.buildAll { service } {} = [a, b, c] ∧
    [a, b, c].map (·.host) = ["a.example", "b.example", "c.example"] ∧
    [a, b, c].map (·.timezone) = [-7, 3, 1] := by
  obtain ⟨a, ha, hhost, htimezone⟩ := exists_gateway "a.example" "sea"
  obtain ⟨b, hb, hhost', htimezone'⟩ := exists_gateway "b.example" "mow"
  obtain ⟨c, hc, hhost'', htimezone''⟩ := exists_gateway "c.example" "ams"
  have hhosts : [a, b, c].map (·.host) = ["a.example", "b.example", "c.example"] := by
    simp [hhost, hhost', hhost'']
  refine ⟨a, b, c, Directory.buildAll_of_nodup ?_ (by rw [hhosts]; decide), hhosts, ?_⟩
  · rw [List.map_cons, List.map_cons, List.map_singleton, ← ha, ← hb, ← hc]
    rfl
  · simp only [List.map_cons, List.map_nil, htimezone, htimezone', htimezone'']
    rfl

end ThreeZones

namespace Directory

/-- A client two hours after universal time, and one a day before it. -/
theorem ranking_of_timezone_threeZones :
    let d := build { service := ThreeZones.service } {} 2
    let d' := build { service := ThreeZones.service } {} (-22)
    d.gateways.map (·.host) = ["a.example", "b.example", "c.example"] ∧
      d.ordered.map (·.host) = ["b.example", "c.example", "a.example"] ∧
      d'.ordered.map (·.host) = ["b.example", "c.example", "a.example"] ∧
      (∀ n t city, d.selectFor n t city = d'.selectFor n t city) ∧
      d.locations = d'.locations ∧ (∀ name t, d.loadOf name t = d'.loadOf name t) ∧
      ∀ command, Report.directoryOutcome .checked d command =
        Report.directoryOutcome .checked d' command := by
  intro d d'
  obtain ⟨a, b, c, hbuilt, hhosts, hzones⟩ := ThreeZones.exists_gateways
  obtain ⟨ha, hb, hc⟩ : a.timezone = -7 ∧ b.timezone = 3 ∧ c.timezone = 1 := by simpa using hzones
  have hgateways : d.gateways = [a, b, c] := by
    simp only [d]
    rw [build_eq, hbuilt]
    rfl
  have hclient : d.clientTimezone = 2 := clientTimezone_build _ _ _
  have hpresorted : d.strategy.isPresorted = false := by
    rw [← Bool.not_eq_true, isPresorted_build_iff, not_not]
    rfl
  obtain ⟨hzero, hone, htwo⟩ : distanceAt 2 [a, b, c] 0 = 9 ∧ distanceAt 2 [a, b, c] 1 = 1 ∧
      distanceAt 2 [a, b, c] 2 = 1 := by
    simp only [distanceAt, List.getElem?_cons_zero, List.getElem?_cons_succ, Option.elim_some, ha,
      hb, hc]
    decide
  have hnumbers : [1, 2, 0] = rankNumbers 2 [a, b, c] := by
    have hperm : [1, 2, 0].Perm (List.range 3) := by decide
    refine eq_rankNumbers hperm ?_
    simp [Precedes, hzero, hone, htwo]
  have hranked : rank 2 [a, b, c] = [b, c, a] := by
    refine List.map_injective_iff.2 (Option.some_injective Gateway) ?_
    rw [rank, ← hnumbers, map_some_ranked (by simp)]
    rfl
  have hhosts' : d.ordered.map (·.host) = ["b.example", "c.example", "a.example"] := by
    obtain ⟨hhost, hhost', hhost''⟩ :
        a.host = "a.example" ∧ b.host = "b.example" ∧ c.host = "c.example" := by simpa using hhosts
    rw [ordered_of_not_isPresorted hpresorted, hgateways, hclient, hranked]
    simp [hhost, hhost', hhost'']
  have hreach : ∀ g ∈ d.gateways, Clock.inReach 2 g.timezone ∧ Clock.inReach (-22) g.timezone := by
    rw [hgateways]
    simp only [List.forall_mem_cons, ha, hb, hc]
    decide
  obtain ⟨⟨hordered, -, hselect, -⟩, ⟨hlocations, -⟩, ⟨-, hload⟩, hanswers⟩ :=
    (ranking_of_timezone.2 { service := ThreeZones.service } {} 2 (-22) (by decide)).2 hreach
  exact ⟨by rw [hgateways, hhosts], hhosts', by rw [← hhosts', ← hordered], hselect, hlocations,
    hload, (hanswers .checked).1.directoryOutcome⟩

end Directory

end VpnDirectory
