import Mathlib.Algebra.Order.BigOperators.Group.List
import Mathlib.Algebra.Order.Field.Rat
import Mathlib.Data.Finset.Max
import VpnDirectory.Proofs.Clock
import VpnDirectory.Proofs.Location

/-!
# The mean of loads in exact arithmetic

A location keeps up the mean of its loads while gateways come in, and never their sum. On doubles
each step rounds; in exact arithmetic nothing is lost.

* `Location.mul_meanAfter` : the invariant, by which the mean weighs as much as the loads together.
  `Location.runningMean_eq` : so the running mean is the mean.
* `Location.addAll_perm` : gateways may come in in any order.
* `Load.ofValue_eq_unknown_iff` : the loads that are in no class.
* `Location.mean_of_addAll` : what all of this says of a location whose loads are fractions.
-/

namespace VpnDirectory

variable {α : Type} [Field α] [LinearOrder α] [IsStrictOrderedRing α]

/-- A load is in a class exactly if it is positive and at most one. -/
theorem Load.ofValue_eq_unknown_iff {x : α} : ofValue x = unknown ↔ x ≤ 0 ∨ 1 < x := by
  have hzero : (quarters 0 : α) = 0 := by simp [quarters]
  have hone : (quarters 4 : α) = 1 := by simp [quarters]
  have hless (n : Int) (hn : n ≤ 4) : (quarters n : α) ≤ 1 := by
    have hcast : (n : α) ≤ 4 := by exact_mod_cast hn
    rw [quarters, Int.cast_ofNat, div_le_one (by norm_num)]
    exact hcast
  have hclass (hpos : ¬ x ≤ 0) (hle : x ≤ 1) : ¬ (x ≤ 0 ∨ 1 < x) :=
    not_or.2 ⟨hpos, hle.not_gt⟩
  unfold ofValue
  rw [hzero, hone]
  split_ifs with hnone hgood haverage hcritical
  · exact iff_of_true rfl (.inl hnone)
  · exact iff_of_false nofun (hclass hnone (hgood.trans (hless 1 (by decide))))
  · exact iff_of_false nofun (hclass hnone (haverage.trans (hless 3 (by decide))))
  · exact iff_of_false nofun (hclass hnone hcritical)
  · exact iff_of_true rfl (.inr (not_le.1 hcritical))

namespace Location

variable {l : Location α} {loads : List α} {gateways gateways' : List (α × List Transport)}

/-! ### The mean -/

/-- The mean after one more load, taken once for each of them, weighs as much as all of them. -/
theorem mul_mean_add (n : Nat) (mean x : α) : (((n + 1 : Nat) : Int) : α) *
    ((((n : Int) : α) * mean + x) / (((n : Int) : α) + ((1 : Int) : α))) = n * mean + x := by
  rw [Int.cast_natCast, Int.cast_natCast, Int.cast_one, ← Nat.cast_add_one,
    mul_div_cancel₀ _ (Nat.cast_ne_zero.2 n.succ_ne_zero)]

/-- So does the mean in the end, however many loads come in. -/
theorem mul_meanAfter (n : Nat) (mean : α) (loads : List α) :
    ((n + loads.length : Nat) : α) * meanAfter n mean loads = n * mean + loads.sum := by
  induction loads generalizing n mean with
  | nil => simp [meanAfter]
  | cons x xs ih =>
    have hlength : n + (x :: xs).length = n + 1 + xs.length := by
      rw [List.length_cons]
      omega
    rw [hlength, meanAfter, ih, ← Int.cast_natCast (n + 1), mul_mean_add, List.sum_cons, add_assoc]

/-- The mean, taken once for each load, weighs as much as the loads together. -/
theorem length_mul_runningMean (loads : List α) :
    (loads.length : α) * runningMean loads = loads.sum := by
  have hweight := mul_meanAfter 0 ((0 : Int) : α) loads
  rw [Nat.zero_add, Nat.cast_zero, zero_mul, zero_add] at hweight
  exact hweight

theorem runningMean_eq (h : loads ≠ []) : runningMean loads = loads.sum / loads.length := by
  have hlength : (loads.length : α) ≠ 0 := by
    rwa [Nat.cast_ne_zero, Ne, List.length_eq_zero_iff]
  rw [eq_div_iff hlength, mul_comm, length_mul_runningMean]

theorem le_runningMean {least : α} (h : loads ≠ []) (hle : ∀ x ∈ loads, least ≤ x) :
    least ≤ runningMean loads := by
  have hpos : 0 < (loads.length : α) := Nat.cast_pos.2 (List.length_pos_of_ne_nil h)
  refine le_of_mul_le_mul_left ?_ hpos
  rw [length_mul_runningMean, ← nsmul_eq_mul]
  exact List.card_nsmul_le_sum loads least hle

theorem runningMean_le {greatest : α} (h : loads ≠ []) (hle : ∀ x ∈ loads, x ≤ greatest) :
    runningMean loads ≤ greatest := by
  have hpos : 0 < (loads.length : α) := Nat.cast_pos.2 (List.length_pos_of_ne_nil h)
  refine le_of_mul_le_mul_left ?_ hpos
  rw [length_mul_runningMean, ← nsmul_eq_mul]
  exact List.sum_le_card_nsmul loads greatest hle

/-- The mean lies between the least and the greatest of the loads. -/
theorem exists_bounds (h : loads ≠ []) : ∃ least greatest, IsLeast {x | x ∈ loads} least ∧
    IsGreatest {x | x ∈ loads} greatest ∧
    least ≤ runningMean loads ∧ runningMean loads ≤ greatest := by
  have hne : loads.toFinset.Nonempty := (List.toFinset_nonempty_iff loads).2 h
  have hleast := loads.toFinset.isLeast_min' hne
  have hgreatest := loads.toFinset.isGreatest_max' hne
  rw [List.coe_toFinset] at hleast hgreatest
  exact ⟨_, _, hleast, hgreatest, le_runningMean h fun _ hx => hleast.2 hx,
    runningMean_le h fun _ hx => hgreatest.2 hx⟩

/-- The mean of estimates is in the bounds of an estimate. -/
theorem runningMean_estimates (h : loads ≠ [])
    (hestimates : ∀ x ∈ loads, ∃ client gateway, x = Clock.estimate client gateway) :
    1 / 10 ≤ runningMean loads ∧ runningMean loads ≤ 1 := by
  constructor
  · refine le_runningMean h fun x hx => ?_
    obtain ⟨client, gateway, rfl⟩ := hestimates x hx
    exact Clock.tenth_le_estimate client gateway
  · refine runningMean_le h fun x hx => ?_
    obtain ⟨client, gateway, rfl⟩ := hestimates x hx
    exact Clock.estimate_le_one client gateway

/-! ### The order of the gateways -/

theorem unite_swap (a b c : List Transport) : unite (unite a b) c = unite (unite a c) b := by
  refine List.filter_congr fun t _ => ?_
  rw [Bool.eq_iff_iff]
  simp only [Bool.or_eq_true, List.contains_iff_mem, mem_unite]
  exact or_right_comm

/-- Two gateways may come in in either order. -/
theorem add_swap (l : Location α) (g g' : α × List Transport) :
    (l.add g.1 g.2).add g'.1 g'.2 = (l.add g'.1 g'.2).add g.1 g.2 := by
  simp only [add, mul_mean_add, unite_swap l.transports g.2 g'.2]
  rw [add_right_comm (_ * _) g.1 g'.1]

theorem addAll_perm (h : gateways.Perm gateways') : l.addAll gateways = l.addAll gateways' :=
  h.foldl_eq' (fun g _ g' _ l => add_swap l g g') l

/-! ### Fractions -/

/-- In exact arithmetic a location that gateways have come into counts them and has the mean of
their loads. So they may come in in any order, and the mean lies between the least and the greatest
of the loads. If all of the loads are estimates, the mean is at least a tenth and at most one, and
thus in a class. -/
theorem mean_of_addAll (name : String) (isSelected : Bool) (gateways : List (ℚ × List Transport))
    (h : gateways ≠ []) :
    let l := (empty name isSelected).addAll gateways
    let loads := gateways.map (·.1)
    l.gatewayCount = loads.length ∧
      l.averageLoad = loads.sum / loads.length ∧
      (∀ gateways', gateways'.Perm gateways → (empty name isSelected).addAll gateways' = l) ∧
      (∃ least greatest, IsLeast {x | x ∈ loads} least ∧ IsGreatest {x | x ∈ loads} greatest ∧
        least ≤ l.averageLoad ∧ l.averageLoad ≤ greatest) ∧
      ((∀ x ∈ loads, ∃ client gateway, x = Clock.estimate client gateway) →
        1 / 10 ≤ l.averageLoad ∧ l.averageLoad ≤ 1 ∧ l.load ≠ .unknown) := by
  intro l loads
  have hloads : loads ≠ [] := mt List.map_eq_nil_iff.1 h
  have hfields := addAll_eq (empty name isSelected) gateways
  have hmean : l.averageLoad = runningMean loads := congrArg (·.averageLoad) hfields
  have hcount : l.gatewayCount = loads.length := by
    rw [congrArg (·.gatewayCount) hfields, List.length_map]
    exact Nat.zero_add _
  rw [hmean]
  refine ⟨hcount, runningMean_eq hloads, fun _ hperm => addAll_perm hperm, exists_bounds hloads,
    fun hestimates => ?_⟩
  obtain ⟨hle, hge⟩ := runningMean_estimates hloads hestimates
  refine ⟨hle, hge, ?_⟩
  rw [load, hmean, Ne, Load.ofValue_eq_unknown_iff, not_or, not_le, not_lt]
  exact ⟨lt_of_lt_of_le (by norm_num) hle, hge⟩

/-- Gateways at the client's own time zone, a quarter of a day and half a day away. -/
theorem mean_of_addAll_threeZones :
    let gateways : List (ℚ × List Transport) := [(Clock.estimate 1 1, [.openvpn]),
      (Clock.estimate 1 (-5), [.openvpn, .obfs4]), (Clock.estimate 1 13, [])]
    let l := (empty "Amsterdam" false).addAll gateways
    gateways ≠ [] ∧ l.gatewayCount = 3 ∧ l.averageLoad = 8 / 15 ∧
      (empty "Amsterdam" false).addAll gateways.reverse = l ∧
      (∀ x ∈ gateways.map (·.1), ∃ client gateway, x = Clock.estimate client gateway) ∧
      1 / 10 ≤ l.averageLoad ∧ l.averageLoad ≤ 1 ∧ l.load ≠ .unknown := by
  intro gateways l
  have hne : gateways ≠ [] := List.cons_ne_nil _ _
  obtain ⟨hcount, hmean, hperm, -, hbounds⟩ := mean_of_addAll "Amsterdam" false gateways hne
  have hestimates : ∀ x ∈ gateways.map (·.1), ∃ client gateway,
      x = Clock.estimate client gateway := by
    simp only [gateways, List.map_cons, List.map_nil, List.forall_mem_cons]
    exact ⟨⟨_, _, rfl⟩, ⟨_, _, rfl⟩, ⟨_, _, rfl⟩, nofun⟩
  refine ⟨hne, hcount, ?_, hperm _ gateways.reverse_perm, hestimates, hbounds hestimates⟩
  rw [hmean]
  have hdistances : Clock.distance 1 1 = 0 ∧ Clock.distance 1 (-5) = 6 ∧
      Clock.distance 1 13 = 12 := by decide
  simp only [gateways, List.map_cons, List.map_nil, Clock.estimate_eq_max, hdistances]
  norm_num

end Location

end VpnDirectory
