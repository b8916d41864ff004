import Mathlib.Algebra.Order.Field.Basic
import Mathlib.Data.Int.ModEq
import Mathlib.Tactic.Linarith
import Mathlib.Tactic.Ring
import VpnDirectory.Clock
import VpnDirectory.Proofs.Number.Overflow

/-!
# The circle of hours

Offsets that are whole days apart show the same time. So there are many ways around the clock from
one offset to another, each some days longer than another one, and the distance is the shortest.

* `Clock.around_le_abs`, `Clock.exists_around_eq_abs` : no way is shorter, and one of them is as
  short. The inequality for a way by a third offset (`Clock.around_sub_le`) comes of these two.
* `Clock.distance_of_inReach`, `Clock.distanceIn_eq` : the difference of two offsets has 32 bits.
  Where it fits them the distance goes by it; elsewhere there is none in checked arithmetic.
* `Clock.toInt_wordDistance` : words of 32 bits give the distance of wrapping arithmetic.
* `Clock.distance_circular` : the distance is that of a circle of 24 hours.
* `Clock.tenth_le_estimate`, `Clock.estimate_le_one` : in exact arithmetic an estimated load lies
  between a tenth and one.
-/

namespace VpnDirectory.Clock

/-! ### The shortest way -/

/-- No way is shorter. -/
theorem around_le_abs (n k : Int) : around n ≤ |n + hours * k| := by
  simp only [around, hours]
  -- the remainder of the difference is that of every way
  rcases abs_cases (n + 24 * k) with ⟨habs, _⟩ | ⟨habs, _⟩ <;> rw [habs] <;> omega

/-- One of the ways is as short: that of the remainder, or the one back from it by a day. -/
theorem exists_around_eq_abs (n : Int) : ∃ k, around n = |n + hours * k| := by
  have hnonneg : 0 ≤ n % hours := Int.emod_nonneg _ (by decide)
  have hlt : n % hours < hours := Int.emod_lt_of_pos _ (by decide)
  have hforth : n + hours * -(n / hours) = n % hours := by
    rw [Int.emod_def]
    ring
  have hback : n + hours * (-(n / hours) - 1) = -(hours - n % hours) := by
    rw [Int.emod_def]
    ring
  rcases le_total (n % hours) (hours - n % hours) with hle | hle
  · refine ⟨-(n / hours), ?_⟩
    rw [hforth, abs_of_nonneg hnonneg]
    exact min_eq_left hle
  · refine ⟨-(n / hours) - 1, ?_⟩
    rw [hback, abs_neg, abs_of_pos (sub_pos.2 hlt)]
    exact min_eq_right hle

theorem isLeast_around (n : Int) : IsLeast (Set.range fun k => |n + hours * k|) (around n) := by
  obtain ⟨k, hk⟩ := exists_around_eq_abs n
  refine ⟨⟨k, hk.symm⟩, ?_⟩
  rintro _ ⟨j, rfl⟩
  exact around_le_abs n j

/-- A way in two parts is not shorter. -/
theorem around_add_le (m n : Int) : around (m + n) ≤ around m + around n := by
  obtain ⟨j, hj⟩ := exists_around_eq_abs m
  obtain ⟨k, hk⟩ := exists_around_eq_abs n
  calc around (m + n)
      ≤ |m + n + hours * (j + k)| := around_le_abs (m + n) (j + k)
    _ = |(m + hours * j) + (n + hours * k)| := by congr 1; ring
    _ ≤ |m + hours * j| + |n + hours * k| := abs_add_le _ _
    _ = around m + around n := by rw [hj, hk]

/-- The remainder may be taken of the absolute value as well. -/
theorem around_eq_min_abs (n : Int) : around n = min (|n| % hours) (hours - |n| % hours) := by
  simp only [around, hours]
  rcases abs_cases n with ⟨habs, _⟩ | ⟨habs, _⟩ <;> rw [habs]
  omega

theorem around_eq_zero_iff {n : Int} : around n = 0 ↔ n % hours = 0 := by
  simp only [around, hours]
  omega

theorem around_sub_comm (a b : Int) : around (a - b) = around (b - a) := by
  rw [← around_neg, Int.neg_sub]

theorem around_sub_eq_zero_iff {a b : Int} : around (a - b) = 0 ↔ a ≡ b [ZMOD hours] := by
  rw [around_eq_zero_iff]
  exact Int.emod_eq_emod_iff_emod_sub_eq_zero.symm

/-- The way by a third offset is not shorter. -/
theorem around_sub_le (a b c : Int) : around (a - c) ≤ around (a - b) + around (b - c) := by
  rw [← sub_add_sub_cancel a b c]
  exact around_add_le _ _

/-- Whole days do not count. -/
theorem around_congr {m n : Int} (h : m % hours = n % hours) : around m = around n := by
  rw [around, around, h]

/-! ### Differences of 32 bits -/

/-- Does the difference of the offsets fit 32 bits? -/
def inReach (a b : Int) : Bool := Range.int32.contains (a - b)

/-- Where the difference fits 32 bits, the distance goes by it. -/
theorem distance_of_inReach {a b : Int} (h : inReach a b) : distance a b = around (a - b) := by
  rw [distance, Range.wrap_of_contains h]

/-- In checked arithmetic there is a distance between offsets in reach of each other, the same as in
wrapping arithmetic, and none between others. -/
theorem distanceIn_eq (arithmetic : Arithmetic) (a b : Int) :
    distanceIn arithmetic a b = arithmetic.answer (inReach a b) (distance a b) := by
  rw [distanceIn, Arithmetic.subtract_eq]
  exact Arithmetic.answer_bind_ok _ _ around

theorem estimateIn_eq {α : Type} [IntCast α] [Div α] [LE α] [DecidableLE α]
    (arithmetic : Arithmetic) (client gateway : Int) :
    (estimateIn arithmetic client gateway : Except Overflow α) =
      arithmetic.answer (inReach client gateway) (estimate client gateway) := by
  rw [estimateIn, distanceIn_eq]
  exact Arithmetic.answer_bind_ok _ _ estimateOf

/-- Only offsets that are whole days apart are at no distance. -/
theorem distance_eq_zero_iff {a b : Int} (h : inReach a b) :
    distance a b = 0 ↔ a ≡ b [ZMOD hours] := by
  rw [distance_of_inReach h, around_sub_eq_zero_iff]

theorem distance_triangle {a b c : Int} (hab : inReach a b) (hbc : inReach b c)
    (hac : inReach a c) : distance a c ≤ distance a b + distance b c := by
  rw [distance_of_inReach hab, distance_of_inReach hbc, distance_of_inReach hac]
  exact around_sub_le a b c

/-- Of an offset only the time of day counts. -/
theorem distance_congr {a a' b : Int} (h : a % hours = a' % hours) (hreach : inReach a b)
    (hreach' : inReach a' b) : distance a b = distance a' b := by
  rw [distance_of_inReach hreach, distance_of_inReach hreach']
  refine around_congr ?_
  rw [hours] at h ⊢
  omega

/-! ### Words of 32 bits -/

/-- The remainder by a day on words, brought back by a day if it is negative. -/
def wordRemainder (x : Int32) : Int32 := if x % 24 < 0 then x % 24 + 24 else x % 24

/-- The distance on words, where a difference may wrap around. -/
def wordDistance (a b : Int32) : Int32 :=
  let d := wordRemainder (a - b)
  if d ≤ 24 - d then d else 24 - d

/-- Words wrap around as whole numbers do. -/
theorem bmod_eq_wrap (n : Int) : n.bmod (2 ^ 32) = Range.int32.wrap n := by
  rw [Range.wrap_int32, Int.bmod_def]
  omega

theorem bmod_eq_self {n : Int} (h : Range.int32.contains n) : n.bmod (2 ^ 32) = n := by
  rw [bmod_eq_wrap, Range.wrap_of_contains h]

theorem toInt_wordRemainder (x : Int32) : (wordRemainder x).toInt = x.toInt % hours := by
  have hday : (24 : Int32).toInt = 24 := rfl
  have htmod : (x % 24).toInt = x.toInt.tmod 24 := by rw [Int32.toInt_mod, hday]
  have hneg : x % 24 < 0 ↔ x.toInt.tmod 24 < 0 := by
    rw [Int32.lt_iff_toInt_lt, htmod]
    rfl
  -- words keep the sign of the number, so that the remainder can be a day too small
  have hcases : x.toInt.tmod 24 = x.toInt % 24 ∨
      x.toInt.tmod 24 = x.toInt % 24 - 24 ∧ x.toInt % 24 ≠ 0 := by
    rw [Int.tmod_eq_emod]
    split <;> omega
  rw [hours, wordRemainder]
  by_cases h : x % 24 < 0
  · have hsum : Range.int32.contains (x.toInt.tmod 24 + 24) := by
      rw [Range.contains_int32_iff]
      omega
    rw [if_pos h, Int32.toInt_add, htmod, hday, bmod_eq_self hsum]
    rw [hneg] at h
    omega
  · rw [if_neg h, htmod]
    rw [hneg] at h
    omega

/-- Words of 32 bits give the distance, in reach of each other or not. -/
theorem toInt_wordDistance (a b : Int32) :
    (wordDistance a b).toInt = distance a.toInt b.toInt := by
  have hday : (24 : Int32).toInt = 24 := rfl
  have hrem : (wordRemainder (a - b)).toInt = Range.int32.wrap (a.toInt - b.toInt) % 24 := by
    rw [toInt_wordRemainder, Int32.toInt_sub, bmod_eq_wrap, hours]
  have hback : Range.int32.contains (24 - Range.int32.wrap (a.toInt - b.toInt) % 24) := by
    rw [Range.contains_int32_iff]
    omega
  have hrest : (24 - wordRemainder (a - b)).toInt =
      24 - Range.int32.wrap (a.toInt - b.toInt) % 24 := by
    rw [Int32.toInt_sub, hday, hrem, bmod_eq_self hback]
  simp only [wordDistance, distance, around, hours, Int32.le_iff_toInt_le, hrem, hrest]
  split <;> omega

-- beyond 32 bits the difference wraps around, and the distance is not that of the offsets
example : distance (-12) 2147483647 = 3 ∧ around (-12 - 2147483647) = 5 ∧
    distanceIn .checked (-12) 2147483647 = .error {} := by decide

/-! ### The circle -/

/-- The distance is that of the circle of 24 hours, for offsets whose differences fit 32 bits. It is
at most half a day, and the least number of hours, forth or back, that leads from one time of day to
the other; it can as well be read off the absolute value of the difference. It is the same from
either end, zero exactly between offsets that are whole days apart, and no longer than the way by a
third offset. Words of 32 bits give it for all offsets, and checked arithmetic gives it for those
whose difference fits. The way around the clock itself has all of this for offsets of any size. -/
theorem distance_circular (a b c : Int) :
    (0 ≤ distance a b ∧ distance a b ≤ 12) ∧
      distance a b = distance b a ∧
      (inReach a b → distance a b = around (a - b) ∧
        IsLeast (Set.range fun k : Int => |a - b + 24 * k|) (distance a b) ∧
        distance a b = min (|a - b| % 24) (24 - |a - b| % 24) ∧
        (distance a b = 0 ↔ a ≡ b [ZMOD 24])) ∧
      (inReach a b → inReach b c → inReach a c → distance a c ≤ distance a b + distance b c) ∧
      (∀ x y : Int32, x.toInt = a → y.toInt = b → (wordDistance x y).toInt = distance a b) ∧
      (∀ arithmetic : Arithmetic,
        distanceIn arithmetic a b = arithmetic.answer (inReach a b) (distance a b)) ∧
      (0 ≤ around (a - b) ∧ around (a - b) ≤ 12) ∧
      IsLeast (Set.range fun k : Int => |a - b + 24 * k|) (around (a - b)) ∧
      around (a - b) = min (|a - b| % 24) (24 - |a - b| % 24) ∧
      around (a - b) = around (b - a) ∧
      (around (a - b) = 0 ↔ a ≡ b [ZMOD 24]) ∧
      around (a - c) ≤ around (a - b) + around (b - c) := by
  have hleast : IsLeast (Set.range fun k : Int => |a - b + 24 * k|) (around (a - b)) :=
    isLeast_around (a - b)
  have hmin : around (a - b) = min (|a - b| % 24) (24 - |a - b| % 24) :=
    around_eq_min_abs (a - b)
  refine ⟨⟨distance_nonneg a b, distance_le a b⟩, distance_comm a b, fun h => ?_,
    distance_triangle, ?_, fun arithmetic => distanceIn_eq arithmetic a b,
    ⟨around_nonneg _, around_le _⟩, hleast, hmin, around_sub_comm a b, around_sub_eq_zero_iff,
    around_sub_le a b c⟩
  · have heq := distance_of_inReach h
    exact ⟨heq, heq ▸ hleast, heq.trans hmin, distance_eq_zero_iff h⟩
  · rintro x y rfl rfl
    exact toInt_wordDistance x y

/-! ### Estimated loads -/

section Estimate

variable {α : Type} [Field α] [LinearOrder α]

/-- In exact arithmetic an estimated load is the share of half a day, or a tenth if that is
more. -/
theorem estimate_eq_max (client gateway : Int) :
    (estimate client gateway : α) = max ((distance client gateway : α) / 12) (1 / 10) := by
  have hhalf : ((maxDistance : Int) : α) = 12 := by
    change ((12 : Int) : α) = 12
    norm_num
  simp only [estimate, estimateOf, hhalf, Int.cast_one, Int.cast_ofNat]
  rw [max_def]

theorem tenth_le_estimate (client gateway : Int) : 1 / 10 ≤ (estimate client gateway : α) := by
  rw [estimate_eq_max]
  exact le_max_right _ _

variable [IsStrictOrderedRing α]

theorem estimate_le_one (client gateway : Int) : (estimate client gateway : α) ≤ 1 := by
  have hle : ((distance client gateway : Int) : α) ≤ 12 := by
    exact_mod_cast distance_le client gateway
  rw [estimate_eq_max]
  refine max_le ?_ ?_
  · rw [div_le_one (by norm_num)]
    exact hle
  · norm_num

end Estimate

end VpnDirectory.Clock
