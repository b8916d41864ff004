import Mathlib.Data.List.Perm.Subperm
import VpnDirectory.Command.Report
import VpnDirectory.Proofs.Directory.Construction
import VpnDirectory.Proofs.Directory.Reach

/-!
# Selection by place

A client that asks for the first gateway, the second one and so on is given gateways until there are
no more of them, and none of them twice.

* `Directory.WellFormed.nodup_hosts_ordered` : no host comes twice in the order of a directory.
* `Directory.WellFormed.numbered?_numbers` : the order is given by numbers in the list of gateways,
  none of which leaves its place empty.
* `Directory.Enumerates` : selecting by place runs through a list without gaps and repetitions.
* `Report.gatewaysFrom_of_some`, `Report.gatewaysFrom_eq` : one turn of the command that lists
  gateways, and all of them. It writes a line for each place and ends behind the last one.
* `Directory.selectFor_enumerates` : selection enumerates what it should for every transport and
  city, and as the client prefers, in every directory. In checked arithmetic it does so if there is
  an order, and otherwise gives no answer.
-/

namespace VpnDirectory

namespace Directory

variable {d : Directory} {g : Gateway} {gs : List Gateway} {t : Transport} {city : Option String}

/-! ### The order of a directory -/

theorem ordered_of_not_isPresorted (h : d.strategy.isPresorted = false) :
    d.ordered = rank d.clientTimezone d.gateways := by
  rw [ordered, h, if_neg Bool.false_ne_true]

theorem mem_gateways_of_mem_ordered (h : g ∈ d.ordered) : g ∈ d.gateways := by
  cases hpresorted : d.strategy.isPresorted with
  | false =>
    rw [ordered_of_not_isPresorted hpresorted] at h
    exact (rank_perm d.clientTimezone d.gateways).mem_iff.1 h
  | true =>
    rw [ordered, if_pos hpresorted] at h
    exact mem_of_mem_ranked h

/-- The numbers that give the order. -/
def numbers (d : Directory) : List Nat :=
  if d.strategy.isPresorted then d.presorted else rankNumbers d.clientTimezone d.gateways

theorem ordered_eq_ranked (d : Directory) : d.ordered = ranked d.gateways d.numbers 0 := by
  unfold ordered numbers
  split <;> rfl

namespace WellFormed

/-- The gateways in the order of a server have its hosts. -/
theorem hosts_ordered (h : d.WellFormed) (hpresorted : d.strategy.isPresorted) :
    d.ordered.map (·.host) = d.serverHosts := by
  rw [ordered, if_pos hpresorted, h.hosts_ranked]

theorem nodup_hosts_ordered (h : d.WellFormed) : (d.ordered.map (·.host)).Nodup := by
  cases hpresorted : d.strategy.isPresorted with
  | false =>
    rw [ordered_of_not_isPresorted hpresorted]
    exact ((rank_perm d.clientTimezone d.gateways).map _).nodup_iff.2 h.nodup_hosts
  | true =>
    rw [h.hosts_ordered hpresorted]
    exact h.nodup_serverHosts

theorem lt_of_mem_numbers (h : d.WellFormed) {i : Nat} (hi : i ∈ d.numbers) :
    i < d.gateways.length := by
  unfold numbers at hi
  split at hi
  · exact h.lt_of_mem_presorted i hi
  · exact lt_length_of_mem_rankNumbers hi

/-- No number leaves its place empty. -/
theorem numbered?_numbers (h : d.WellFormed) (n : Nat) :
    numbered? d.gateways d.numbers n = d.ordered[n]? := by
  rw [ordered_eq_ranked]
  exact numbered?_eq_ranked (fun _ hi => h.lt_of_mem_numbers hi) n

/-- No number comes twice in the order. -/
theorem nodup_numbers (h : d.WellFormed) : d.numbers.Nodup := by
  unfold numbers
  split
  · exact h.nodup_presorted
  · exact (rankNumbers_perm _ _).nodup_iff.2 List.nodup_range

end WellFormed

/-! ### Lists by place -/

/-- Selecting by place runs through the gateways of a list: every place before its end has a
gateway, none has one from there on, and no host comes twice. -/
structure Enumerates (select : Nat → Option Gateway) (gs : List Gateway) : Prop where
  isSome_iff : ∀ n, (select n).isSome ↔ n < gs.length
  eq_getElem? : ∀ n, select n = gs[n]?
  nodup_hosts : (gs.map (·.host)).Nodup

theorem enumerates_of_nodup {select : Nat → Option Gateway} (hselect : ∀ n, select n = gs[n]?)
    (hnodup : (gs.map (·.host)).Nodup) : Enumerates select gs :=
  ⟨fun n => by rw [hselect]; simp, hselect, hnodup⟩

theorem Enumerates.unique {select : Nat → Option Gateway} {gs gs' : List Gateway}
    (h : Enumerates select gs) (h' : Enumerates select gs') : gs = gs' :=
  List.ext_getElem? fun n => (h.eq_getElem? n).symm.trans (h'.eq_getElem? n)

theorem length_le_of_nodup_hosts (hnodup : (gs.map (·.host)).Nodup)
    (hmem : ∀ g ∈ gs, g ∈ d.gateways) : gs.length ≤ d.gateways.length :=
  (hnodup.of_map.subperm hmem).length_le

/-! ### Gateways with a transport -/

theorem mem_offered_iff :
    g ∈ d.offered t city ↔ g ∈ d.ordered ∧ g.supports t ∧ ∀ c ∈ city, g.name = c := by
  rw [offered, fitting, List.mem_filter, Bool.and_eq_true]
  cases city <;> simp

/-- The gateways of a city are those of its name among all that are offered. -/
theorem offered_eq_filter (d : Directory) (t : Transport) (city : Option String) :
    d.offered t city = (d.offered t none).filter fun g => city.all (g.name == ·) := by
  rw [offered, offered, fitting, fitting, List.filter_filter]
  simp [Bool.and_comm]

theorem offered_sublist (d : Directory) (t : Transport) (city : Option String) :
    (d.offered t city).Sublist (d.offered t none) := by
  rw [offered_eq_filter]
  exact List.filter_sublist

theorem WellFormed.enumerates_offered (h : d.WellFormed) (t : Transport) (city : Option String) :
    Enumerates (fun n => d.selectFor n t city) (d.offered t city) :=
  enumerates_of_nodup (fun _ => rfl)
    ((List.filter_sublist.map _).nodup h.nodup_hosts_ordered)

/-- A pinned gateway is selected alone, if it has the preferred transport. -/
theorem selectPreferred_of_pinnedGateway {host : String}
    (hpinned : d.preferences.pinnedGateway = some host) (n : Nat) :
    d.selectPreferred n = ((d.gateway? host).filter (·.supports d.transport)).toList[n]? := by
  rw [selectPreferred, hpinned]
  dsimp only
  cases d.gateway? host with
  | none => rfl
  | some g =>
    rw [Option.filter_some, Option.filter_some]
    cases g.supports d.transport <;> cases n <;> rfl

theorem WellFormed.exists_enumerates_selectPreferred (h : d.WellFormed) :
    ∃ gs, Enumerates d.selectPreferred gs ∧ ∀ g ∈ gs, g ∈ d.gateways ∧ g.supports d.transport := by
  cases hpinned : d.preferences.pinnedGateway with
  | some host =>
    refine ⟨_, enumerates_of_nodup (selectPreferred_of_pinnedGateway hpinned) ?_, fun g hg => ?_⟩
    · cases (d.gateway? host).filter (·.supports d.transport) with
      | none => exact List.nodup_nil
      | some g => exact List.nodup_singleton g.host
    · obtain ⟨hfound, hsupports⟩ := Option.filter_eq_some_iff.1 (Option.mem_toList.1 hg)
      exact ⟨mem_gateways_of_gateway? hfound, hsupports⟩
  | none =>
    refine ⟨d.offered d.transport d.preferences.preferredCity, ?_, fun g hg => ?_⟩
    · have hselect : d.selectPreferred =
          fun n => d.selectFor n d.transport d.preferences.preferredCity := by
        funext n
        rw [selectPreferred, hpinned]
        rfl
      rw [hselect]
      exact h.enumerates_offered _ _
    · obtain ⟨hordered, hsupports, -⟩ := mem_offered_iff.1 hg
      exact ⟨mem_gateways_of_mem_ordered hordered, hsupports⟩

end Directory

/-! ### Listing gateways -/

namespace Report

variable {arithmetic : Arithmetic} {d : Directory} {t : Transport} {city : Option String}
variable {g : Gateway} {gs : List Gateway} {n : Nat}

/-- Gateways in a line each, or a line that says that there are none. -/
def gatewayLines (t : Transport) (gs : List Gateway) : List String :=
  if gs = [] then [noGatewayLine t] else gs.mapIdx gatewayLine

/-- A gateway at a place is written out before those from the next place on. -/
theorem gatewaysFrom_of_some (h : d.selectForIn arithmetic n t city = .ok (some g)) :
    gatewaysFrom arithmetic d t city n =
      (gatewaysFrom arithmetic d t city (n + 1)).after (gatewayLine n g) := by
  rw [gatewaysFrom]
  split
  · next e he => rw [h] at he; cases he
  · next g' hg' => rw [h] at hg'; cases hg'; rfl
  · next hnone => rw [h] at hnone; cases hnone

/-- The listing ends at a place that has no gateway. -/
theorem gatewaysFrom_of_none (h : d.selectForIn arithmetic n t city = .ok none) :
    gatewaysFrom arithmetic d t city n = { lines := if n = 0 then [noGatewayLine t] else [] } := by
  rw [gatewaysFrom]
  split
  · next e he => rw [h] at he; cases he
  · next g hg => rw [h] at hg; cases hg
  · rfl

/-- The listing stops where there is no answer. -/
theorem gatewaysFrom_of_error {e : Overflow} (h : d.selectForIn arithmetic n t city = .error e) :
    gatewaysFrom arithmetic d t city n = { ending := .outOfReach } := by
  rw [gatewaysFrom]
  split
  · rfl
  · next g hg => rw [h] at hg; cases hg
  · next hnone => rw [h] at hnone; cases hnone

/-- From a place on, the listing has the lines of the gateways from there on. -/
theorem gatewaysFrom_eq_drop (h : ∀ n, d.selectForIn arithmetic n t city = .ok gs[n]?)
    (hsome : gs ≠ [] ∨ n ≠ 0) :
    gatewaysFrom arithmetic d t city n = { lines := (gs.mapIdx gatewayLine).drop n } := by
  -- the induction is on the turns of the listing
  induction n using gatewaysFrom.induct arithmetic d t city with
  | case1 n e he =>
    rw [h] at he
    cases he
  | case2 n g hg ih =>
    have hplace : gs[n]? = some g := Except.ok.inj ((h n).symm.trans hg)
    obtain ⟨hlt, rfl⟩ := List.getElem?_eq_some_iff.1 hplace
    have hdrop : (gs.mapIdx gatewayLine).drop n =
        gatewayLine n gs[n] :: (gs.mapIdx gatewayLine).drop (n + 1) := by
      rw [List.drop_eq_getElem_cons (by simpa using hlt), List.getElem_mapIdx]
    rw [gatewaysFrom_of_some hg, ih (.inr (Nat.succ_ne_zero n)), hdrop]
    rfl
  | case3 n hnone =>
    have hle : gs.length ≤ n :=
      List.getElem?_eq_none_iff.1 (Except.ok.inj ((h n).symm.trans hnone))
    have hn : n ≠ 0 := by
      rcases hsome with hne | hn
      · have hpos := List.length_pos_iff.2 hne
        omega
      · exact hn
    rw [gatewaysFrom_of_none hnone, if_neg hn, List.drop_of_length_le (by simpa using hle)]

/-- The listing has a line for each gateway that is selected, and ends behind the last one. -/
theorem gatewaysFrom_eq (h : ∀ n, d.selectForIn arithmetic n t city = .ok gs[n]?) :
    gatewaysFrom arithmetic d t city 0 = { lines := gatewayLines t gs } := by
  unfold gatewayLines
  split
  · next hnil =>
    subst hnil
    exact gatewaysFrom_of_none (h 0)
  · next hne => exact gatewaysFrom_eq_drop h (.inl hne)

/-- What a command that lists gateways writes out, and how it ends. -/
theorem directoryOutcome_gateways (arithmetic : Arithmetic) (d : Directory)
    (transport : Option Transport) (city : Option String) :
    directoryOutcome arithmetic d (.gateways transport city) =
      if arithmetic.goesThrough d.isOrderInReach then {
        lines := gatewayLines (transport.getD d.transport)
          (d.offered (transport.getD d.transport) city) }
      else { ending := .outOfReach } := by
  have hselect (n : Nat) := d.selectForIn_eq arithmetic n (transport.getD d.transport) city
  unfold Arithmetic.answer at hselect
  change gatewaysFrom arithmetic d (transport.getD d.transport) city 0 = _
  split
  · next hthrough =>
    simp only [if_pos hthrough] at hselect
    exact gatewaysFrom_eq hselect
  · next hthrough =>
    simp only [if_neg hthrough] at hselect
    exact gatewaysFrom_of_error (hselect 0)

end Report

namespace Directory

/-- Selection by place, in every directory. The order is that of the server's hosts or else of the
distances, and can be given by numbers without gaps. For every transport and city the gateways of
the order that fit are selected one after another, each once; those of a city are selected in the
order that they have among all, and a command that lists them writes each of them in a line and
ends. What a client prefers, a pinned gateway or a city, is selected without gaps and repetitions as
well. All of this is so in wrapping arithmetic; in checked arithmetic the answers are the same,
unless the order goes by differences that do not fit, and then there is none. -/
theorem selectFor_enumerates (provider : Provider) (preferences : Preferences)
    (clientTimezone : Int) :
    let d := build provider preferences clientTimezone
    ((d.strategy.isPresorted → d.ordered.map (·.host) = d.serverHosts) ∧
        (d.strategy.isPresorted = false → d.ordered.Perm d.gateways ∧ d.ordered.Pairwise fun a b =>
          Clock.distance clientTimezone a.timezone ≤ Clock.distance clientTimezone b.timezone) ∧
        ∃ numbers : List Nat, numbers.Nodup ∧
          ∀ n, numbered? d.gateways numbers n = d.ordered[n]?) ∧
      (∀ t city, ∃ gs : List Gateway, gs.length ≤ d.gateways.length ∧
        Enumerates (fun n => d.selectFor n t city) gs ∧ gs.Sublist d.ordered ∧
        (∀ g, g ∈ gs ↔ g ∈ d.ordered ∧ g.supports t ∧ ∀ c ∈ city, g.name = c) ∧
        (∀ all, Enumerates (fun n => d.selectFor n t none) all → gs.Sublist all) ∧
        ∀ (arithmetic : Arithmetic) transport, transport.getD d.transport = t →
          Report.directoryOutcome arithmetic d (.gateways transport city) =
            if arithmetic.goesThrough d.isOrderInReach then { lines := Report.gatewayLines t gs }
            else { ending := .outOfReach }) ∧
      (∃ gs : List Gateway, gs.length ≤ d.gateways.length ∧ Enumerates d.selectPreferred gs ∧
        ∀ g ∈ gs, g ∈ d.gateways ∧ g.supports d.transport) ∧
      ∀ arithmetic : Arithmetic,
        d.orderedIn arithmetic = arithmetic.answer d.isOrderInReach d.ordered ∧
        (∀ n t city, d.selectForIn arithmetic n t city =
          arithmetic.answer d.isOrderInReach (d.selectFor n t city)) ∧
        ∀ n, d.selectPreferredIn arithmetic n =
          arithmetic.answer d.isPreferenceInReach (d.selectPreferred n) := by
  intro d
  have hwf : d.WellFormed := wellFormed_build provider preferences clientTimezone
  refine ⟨⟨hwf.hosts_ordered, fun htimezone => ?_, _, hwf.nodup_numbers, hwf.numbered?_numbers⟩,
    fun t city => ?_, ?_, fun arithmetic => ⟨orderedIn_eq arithmetic d, selectForIn_eq arithmetic d,
      selectPreferredIn_eq arithmetic d⟩⟩
  · have htimezone' : d.clientTimezone = clientTimezone := clientTimezone_build _ _ _
    rw [ordered_of_not_isPresorted htimezone, htimezone']
    exact ⟨rank_perm _ _, pairwise_rank _ _⟩
  · have henumerates := hwf.enumerates_offered t city
    refine ⟨d.offered t city, ?_, henumerates, List.filter_sublist, fun g => mem_offered_iff,
      fun all hall => ?_, ?_⟩
    · exact length_le_of_nodup_hosts henumerates.nodup_hosts fun g hg =>
        mem_gateways_of_mem_ordered (mem_offered_iff.1 hg).1
    · rw [hall.unique (hwf.enumerates_offered t none)]
      exact offered_sublist d t city
    · rintro arithmetic transport rfl
      exact Report.directoryOutcome_gateways arithmetic d transport city
  · obtain ⟨gs, henumerates, hmem⟩ := hwf.exists_enumerates_selectPreferred
    exact ⟨gs, length_le_of_nodup_hosts henumerates.nodup_hosts fun g hg => (hmem g hg).1,
      henumerates, hmem⟩

/-- A host that is not known and a host that comes twice leave no gap and no repetition. -/
theorem selectFor_enumerates_twoGateways :
    let provider : Provider := {
      service := TwoGateways.service
      order := some (.byName ["b.example", "z.example", "b.example", "a.example"]) }
    let d := build provider {} 0
    (∀ n, (d.selectFor n .openvpn none).isSome ↔ n < 2) ∧
      (d.selectFor 0 .openvpn none).map (·.host) = some "b.example" ∧
      (d.selectFor 1 .openvpn none).map (·.host) = some "a.example" ∧
      ∃ g g' : Gateway, Report.directoryOutcome .checked d (.gateways none none) =
        { lines := [Report.gatewayLine 0 g, Report.gatewayLine 1 g'] } := by
  intro provider d
  have hhosts : (buildAll provider {}).map (·.host) = ["a.example", "b.example"] :=
    TwoGateways.hosts_built
  have horder : (serverOrder provider {}).map (·.host) = ["b.example", "a.example"] := by
    rw [serverOrder, hhosts]
    rfl
  have hpresorted : d.strategy.isPresorted :=
    isPresorted_build_iff.2 fun hnil => by simp [hnil] at horder
  obtain ⟨⟨hserver, -, -⟩, hselect, -⟩ := selectFor_enumerates provider {} 0
  obtain ⟨gs, -, henumerates, hsublist, hmem, -, hlisted⟩ := hselect .openvpn none
  have hgs : gs.map (·.host) = ["b.example", "a.example"] := by
    -- every gateway of the order has plain OpenVPN
    have hall : ∀ g ∈ d.ordered, g ∈ gs := fun g hg =>
      (hmem g).2 ⟨hg, g.supports_openvpn, by simp⟩
    have hnodup := (wellFormed_build provider {} 0).nodup_hosts_ordered.of_map
    rw [hsublist.eq_of_length_le (hnodup.subperm hall).length_le, hserver hpresorted,
      serverHosts_build, horder]
  have hplace (n : Nat) :
      (d.selectFor n .openvpn none).map (·.host) = ["b.example", "a.example"][n]? := by
    rw [henumerates.eq_getElem? n, ← List.getElem?_map, hgs]
  have hlength : gs.length = 2 := by simpa using congrArg List.length hgs
  refine ⟨fun n => ?_, hplace 0, hplace 1, ?_⟩
  · rw [henumerates.isSome_iff n, hlength]
  · have hreach : d.isOrderInReach := isOrderInReach_of_isPresorted hpresorted
    obtain ⟨g, g', rfl⟩ := List.length_eq_two.1 hlength
    have htransport : d.transport = .openvpn := (transport_build provider {} 0).trans rfl
    refine ⟨g, g', ?_⟩
    rw [hlisted .checked none (by rw [Option.getD_none, htransport]),
      Arithmetic.goesThrough_checked, if_pos hreach]
    rfl

end Directory

end VpnDirectory
