import VpnDirectory.Directory.Order
import VpnDirectory.Proofs.Clock
import VpnDirectory.Proofs.Collection.Sorted

/-!
# Orders as lists of gateways

An order is kept as numbers in a list of gateways, and read from place to place.

* `ranked_of_eq_some`, `ranked_of_eq_none` : one place of an order.
* `map_some_ranked` : all of them. If every number has a gateway, no place is empty, and the walk
  ends behind the last one. `numbered?_eq_ranked` : so the places of the order are those of the
  list.
* `rankNumbers_perm`, `pairwise_rankNumbers` : the numbers by distance are all of the numbers, those
  of nearer gateways first. No other arrangement of the numbers is sorted like this
  (`eq_rankNumbers`).
* `rank_eq_mergeSort` : they lead to the gateways sorted by distance.
* `rankNumbersIn_eq` : when there is an order by distance in checked arithmetic.
-/

namespace VpnDirectory

variable {gateways : List Gateway} {numbers : List Nat} {g : Gateway} {client : Int}

/-! ### From place to place -/

/-- The walk goes on behind a place that has a gateway. -/
theorem ranked_of_eq_some {n : Nat} (h : numbered? gateways numbers n = some g) :
    ranked gateways numbers n = g :: ranked gateways numbers (n + 1) := by
  rw [ranked]
  split
  · next g' hg' => rw [Option.some.inj (h.symm.trans hg')]
  · next hnone => rw [h] at hnone; cases hnone

/-- The walk ends at a place that is empty. -/
theorem ranked_of_eq_none {n : Nat} (h : numbered? gateways numbers n = none) :
    ranked gateways numbers n = [] := by
  rw [ranked]
  split
  · next g hg => rw [h] at hg; cases hg
  · rfl

theorem numbered?_of_lt {n : Nat} (h : n < numbers.length) :
    numbered? gateways numbers n = gateways[numbers[n]]? := by
  rw [numbered?, List.getElem?_eq_getElem h, Option.bind_some]

/-- The walk meets gateways of the list only. -/
theorem mem_of_mem_ranked {n : Nat} (h : g ∈ ranked gateways numbers n) : g ∈ gateways := by
  induction n using ranked.induct gateways numbers with
  | case1 n g' hg' ih =>
    rw [ranked_of_eq_some hg'] at h
    rcases List.mem_cons.1 h with rfl | h
    · obtain ⟨i, -, hi⟩ := Option.bind_eq_some_iff.1 hg'
      exact List.mem_of_getElem? hi
    · exact ih h
  | case2 n hnone =>
    rw [ranked_of_eq_none hnone] at h
    cases h

/-- If every number has a gateway, the walk from a place on meets the gateways of all numbers that
are left. -/
theorem map_some_ranked_drop (h : ∀ i ∈ numbers, i < gateways.length) (n : Nat) :
    (ranked gateways numbers n).map some = (numbers.drop n).map fun i => gateways[i]? := by
  induction n using ranked.induct gateways numbers with
  | case1 n g hg ih =>
    have hlt := lt_of_numbered?_eq_some hg
    rw [ranked_of_eq_some hg, List.map_cons, ih, List.drop_eq_getElem_cons hlt, List.map_cons, ← hg,
      numbered?_of_lt hlt]
  | case2 n hnone =>
    -- only behind the last number a place is empty
    have hle : numbers.length ≤ n := by
      by_contra hlt
      rw [numbered?_of_lt (Nat.not_le.1 hlt), List.getElem?_eq_none_iff] at hnone
      exact absurd (h _ (List.getElem_mem (Nat.not_le.1 hlt))) (Nat.not_lt.2 hnone)
    rw [ranked_of_eq_none hnone, List.drop_of_length_le hle]
    rfl

theorem map_some_ranked (h : ∀ i ∈ numbers, i < gateways.length) :
    (ranked gateways numbers 0).map some = numbers.map fun i => gateways[i]? :=
  map_some_ranked_drop h 0

/-- If every number has a gateway, the places of the order are those of the list. -/
theorem numbered?_eq_ranked (h : ∀ i ∈ numbers, i < gateways.length) (n : Nat) :
    numbered? gateways numbers n = (ranked gateways numbers 0)[n]? := by
  have hplace := congrArg (fun places => places[n]?.bind id) (map_some_ranked h)
  simpa [numbered?, Option.bind_map, Function.comp_def] using hplace.symm

/-- The walk along the numbers of changed gateways meets the changed gateways. -/
theorem ranked_map (f : Gateway → Gateway) (gateways : List Gateway) (numbers : List Nat)
    (n : Nat) : ranked (gateways.map f) numbers n = (ranked gateways numbers n).map f := by
  have hplace (n : Nat) :
      numbered? (gateways.map f) numbers n = (numbered? gateways numbers n).map f := by
    rw [numbered?, numbered?, Option.map_bind]
    simp
  induction n using ranked.induct gateways numbers with
  | case1 n g hg ih =>
    rw [ranked_of_eq_some hg, ranked_of_eq_some (by rw [hplace, hg, Option.map_some]), ih,
      List.map_cons]
  | case2 n hnone =>
    rw [ranked_of_eq_none hnone, ranked_of_eq_none (by rw [hplace, hnone, Option.map_none])]
    rfl

/-! ### Numbers by distance -/

/-- The distance from a client to the gateway at a place of a list. -/
def distanceAt (client : Int) (gateways : List Gateway) (i : Nat) : Int :=
  gateways[i]?.elim 0 fun g => Clock.distance client g.timezone

/-- Is a gateway nearer to the client than another one, or as near and before it in the list? -/
def Precedes (client : Int) (gateways : List Gateway) (i j : Nat) : Prop :=
  distanceAt client gateways i < distanceAt client gateways j ∨
    distanceAt client gateways i = distanceAt client gateways j ∧ i < j

theorem rankNumbers_eq (client : Int) (gateways : List Gateway) : rankNumbers client gateways =
    (List.range gateways.length).mergeSort (keyLE (distanceAt client gateways)) := by
  have hdistance (i : Nat) : (gateways.map fun g => Clock.distance client g.timezone).getD i 0 =
      distanceAt client gateways i := by
    rw [List.getD_eq_getElem?_getD, List.getElem?_map, distanceAt]
    cases gateways[i]? <;> rfl
  unfold rankNumbers sortedNumbers keyLE
  simp only [hdistance, List.length_map]

theorem rankNumbers_perm (client : Int) (gateways : List Gateway) :
    (rankNumbers client gateways).Perm (List.range gateways.length) := by
  rw [rankNumbers_eq]
  exact List.mergeSort_perm _ _

theorem lt_length_of_mem_rankNumbers {i : Nat} (h : i ∈ rankNumbers client gateways) :
    i < gateways.length :=
  List.mem_range.1 ((rankNumbers_perm client gateways).mem_iff.1 h)

theorem pairwise_rankNumbers (client : Int) (gateways : List Gateway) :
    (rankNumbers client gateways).Pairwise (Precedes client gateways) := by
  rw [rankNumbers_eq]
  exact pairwise_mergeSort_lex _ List.pairwise_lt_range

/-- No other arrangement of the numbers is sorted in this way. -/
theorem eq_rankNumbers (hperm : numbers.Perm (List.range gateways.length))
    (hsorted : numbers.Pairwise (Precedes client gateways)) :
    numbers = rankNumbers client gateways := by
  refine List.Perm.eq_of_pairwise ?_ hsorted (pairwise_rankNumbers client gateways)
    (hperm.trans (rankNumbers_perm client gateways).symm)
  unfold Precedes
  intro i j _ _ hij hji
  omega

/-! ### Gateways by distance -/

theorem map_getElem?_range (gateways : List Gateway) :
    ((List.range gateways.length).map fun i => gateways[i]?) = gateways.map some := by
  refine List.ext_getElem (by simp) fun i h _ => ?_
  have hi : i < gateways.length := by simpa using h
  simp [hi]

/-- The numbers lead to the gateways sorted by distance. -/
theorem rank_eq_mergeSort (client : Int) (gateways : List Gateway) : rank client gateways =
    gateways.mergeSort (keyLE fun g => Clock.distance client g.timezone) := by
  refine List.map_injective_iff.2 (Option.some_injective Gateway) ?_
  -- both are the list of places, sorted by the distance of the gateway at the place
  let key : Option Gateway → Int := fun place =>
    place.elim 0 fun g => Clock.distance client g.timezone
  calc (rank client gateways).map some
      = (rankNumbers client gateways).map fun i => gateways[i]? :=
        map_some_ranked fun i hi => lt_length_of_mem_rankNumbers hi
    _ = ((List.range gateways.length).map fun i => gateways[i]?).mergeSort (keyLE key) := by
        rw [rankNumbers_eq]
        exact List.map_mergeSort fun _ _ _ _ => rfl
    _ = (gateways.map some).mergeSort (keyLE key) := by rw [map_getElem?_range]
    _ = (gateways.mergeSort (keyLE fun g => Clock.distance client g.timezone)).map some :=
        (List.map_mergeSort (f := some) (l := gateways) fun _ _ _ _ => rfl).symm

theorem rank_perm (client : Int) (gateways : List Gateway) :
    (rank client gateways).Perm gateways := by
  rw [rank_eq_mergeSort]
  exact List.mergeSort_perm gateways _

theorem pairwise_rank (client : Int) (gateways : List Gateway) :
    (rank client gateways).Pairwise fun a b =>
      Clock.distance client a.timezone ≤ Clock.distance client b.timezone := by
  rw [rank_eq_mergeSort]
  exact pairwise_mergeSort_key _ gateways

/-- Gateways at one distance stay in their order. -/
theorem filter_rank (client : Int) (gateways : List Gateway) (k : Int) :
    (rank client gateways).filter (fun g => Clock.distance client g.timezone = k) =
      gateways.filter fun g => Clock.distance client g.timezone = k := by
  rw [rank_eq_mergeSort]
  exact filter_mergeSort_key _ gateways k

theorem rank_of_pairwise (h : gateways.Pairwise fun a b =>
      Clock.distance client a.timezone ≤ Clock.distance client b.timezone) :
    rank client gateways = gateways := by
  rw [rank_eq_mergeSort]
  exact List.mergeSort_of_pairwise (h.imp fun h => (keyLE_iff _).2 h)

theorem numbered?_rankNumbers (client : Int) (gateways : List Gateway) (n : Nat) :
    numbered? gateways (rankNumbers client gateways) n = (rank client gateways)[n]? :=
  numbered?_eq_ranked (fun _ hi => lt_length_of_mem_rankNumbers hi) n

/-- There is a gateway at every place before the end of the list, and at no other one. -/
theorem numbered?_rankNumbers_eq_none_iff (n : Nat) :
    numbered? gateways (rankNumbers client gateways) n = none ↔ gateways.length ≤ n := by
  rw [numbered?_rankNumbers, List.getElem?_eq_none_iff, (rank_perm client gateways).length_eq]

/-! ### Orders that there may not be -/

/-- Are all of the time zones in reach that are compared? A gateway alone is not compared. -/
def isRankInReach (client : Int) (gateways : List Gateway) : Bool :=
  decide (gateways.length ≤ 1) || gateways.all fun g => Clock.inReach client g.timezone

/-- In checked arithmetic there is an order by distance only if the time zones are in reach. It is
that of wrapping arithmetic. -/
theorem rankNumbersIn_eq (arithmetic : Arithmetic) (client : Int) (gateways : List Gateway) :
    rankNumbersIn arithmetic client gateways =
      arithmetic.answer (isRankInReach client gateways) (rankNumbers client gateways) := by
  unfold rankNumbersIn isRankInReach
  by_cases hfew : gateways.length ≤ 1
  · have hrange : List.range gateways.length = rankNumbers client gateways := by
      refine eq_rankNumbers (.refl _) ?_
      have hpairs : ∀ n ≤ 1, (List.range n).Pairwise (Precedes client gateways) := by
        intro n hn
        obtain rfl | rfl : n = 0 ∨ n = 1 := by omega
        · exact .nil
        · exact List.pairwise_singleton _ 0
      exact hpairs _ hfew
    rw [if_pos hfew, decide_eq_true hfew, Bool.true_or, Arithmetic.answer_true, hrange]
  · have hdistances := Arithmetic.mapM_eq_answer gateways fun g _ =>
      Clock.distanceIn_eq arithmetic client g.timezone
    rw [if_neg hfew, decide_eq_false hfew, Bool.false_or, hdistances]
    exact Arithmetic.answer_bind_ok _ _ sortedNumbers

end VpnDirectory
