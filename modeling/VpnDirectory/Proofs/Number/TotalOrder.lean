import VpnDirectory.Number.Binary64

/-!
# The total order of doubles

* `Binary64.TotalOrder` is the total order of the floating-point standard, on all patterns of bits:
  a minus sign comes before a plus sign, and under a sign exponent and fraction decide, the other
  way round for a minus sign. It is a total order (`trans`, `antisymm`, `total`) for patterns that
  stand for no number as well, of either sign and with any fraction.
* `Binary64.totalLE_iff` : sorting goes by this order.
* `Binary64.atMost_of_totalOrder` : numbers, infinite ones included, stand in their own order.
* `Binary64.totalOrder_nan_iff`, `Binary64.nan_totalOrder_iff` : what is no number stands outside of
  them, on the side of its sign.
-/

namespace VpnDirectory.Binary64

variable {a b c : UInt64}

/-! ### The order of patterns -/

/-- The sign is minus. -/
def IsNegative (bits : UInt64) : Prop := pow2 63 ≤ bits.toNat

instance (bits : UInt64) : Decidable (IsNegative bits) := inferInstanceAs (Decidable (_ ≤ _))

/-- Exponent and fraction, the bits behind the sign. -/
def magnitude (bits : UInt64) : Nat := bits.toNat % pow2 63

theorem isNegative_iff : IsNegative a ↔ 9223372036854775808 ≤ a.toNat := Iff.rfl

theorem magnitude_eq (a : UInt64) : magnitude a = a.toNat % 9223372036854775808 := rfl

/-- The total order of the floating-point standard. -/
inductive TotalOrder (a b : UInt64) : Prop
  | signs (ha : IsNegative a) (hb : ¬ IsNegative b)
  | plus (ha : ¬ IsNegative a) (hb : ¬ IsNegative b) (h : magnitude a ≤ magnitude b)
  | minus (ha : IsNegative a) (hb : IsNegative b) (h : magnitude b ≤ magnitude a)

namespace TotalOrder

theorem trans (hab : TotalOrder a b) (hbc : TotalOrder b c) : TotalOrder a c := by
  cases hab with
  | signs ha hb =>
    cases hbc with
    | signs hb' hc => exact absurd hb' hb
    | plus _ hc h => exact .signs ha hc
    | minus hb' hc h => exact absurd hb' hb
  | plus ha hb h =>
    cases hbc with
    | signs hb' hc => exact absurd hb' hb
    | plus _ hc h' => exact .plus ha hc (Nat.le_trans h h')
    | minus hb' hc h' => exact absurd hb' hb
  | minus ha hb h =>
    cases hbc with
    | signs _ hc => exact .signs ha hc
    | plus hb' hc h' => exact absurd hb hb'
    | minus _ hc h' => exact .minus ha hc (Nat.le_trans h' h)

theorem total (a b : UInt64) : TotalOrder a b ∨ TotalOrder b a := by
  by_cases ha : IsNegative a <;> by_cases hb : IsNegative b
  · exact (Nat.le_total (magnitude b) (magnitude a)).imp (.minus ha hb) (.minus hb ha)
  · exact .inl (.signs ha hb)
  · exact .inr (.signs hb ha)
  · exact (Nat.le_total (magnitude a) (magnitude b)).imp (.plus ha hb) (.plus hb ha)

/-- Sign and magnitude are all that there is. -/
theorem eq_of_magnitude_eq (hsign : IsNegative a ↔ IsNegative b) (h : magnitude a = magnitude b) :
    a = b := by
  have ha := a.toNat_lt
  have hb := b.toNat_lt
  rw [isNegative_iff, isNegative_iff] at hsign
  rw [magnitude_eq, magnitude_eq] at h
  exact UInt64.toNat_inj.1 (by omega)

theorem antisymm (hab : TotalOrder a b) (hba : TotalOrder b a) : a = b := by
  cases hab with
  | signs ha hb =>
    cases hba with
    | signs hb' _ => exact absurd hb' hb
    | plus _ ha' _ => exact absurd ha ha'
    | minus hb' _ _ => exact absurd hb' hb
  | plus ha hb h =>
    cases hba with
    | signs hb' _ => exact absurd hb' hb
    | plus _ _ h' => exact eq_of_magnitude_eq (iff_of_false ha hb) (Nat.le_antisymm h h')
    | minus hb' _ _ => exact absurd hb' hb
  | minus ha hb h =>
    cases hba with
    | signs _ ha' => exact absurd ha ha'
    | plus hb' _ _ => exact absurd hb hb'
    | minus _ _ h' => exact eq_of_magnitude_eq (iff_of_true ha hb) (Nat.le_antisymm h' h)

end TotalOrder

/-- The key of a double by its sign and its magnitude. -/
theorem orderKey_eq (a : UInt64) : orderKey a =
    if IsNegative a then -(magnitude a : Int) - 1 else magnitude a := by
  have ha := a.toNat_lt
  have hsign : pow2 63 = 9223372036854775808 := rfl
  rw [orderKey, hsign, magnitude_eq]
  by_cases h : IsNegative a
  · rw [if_pos h, if_pos (isNegative_iff.1 h)]
    rw [isNegative_iff] at h
    omega
  · rw [if_neg h, if_neg (mt isNegative_iff.2 h)]
    rw [isNegative_iff] at h
    omega

/-- Doubles are sorted by the total order of their bits. -/
theorem totalLE_iff : totalLE a b ↔ TotalOrder a b := by
  rw [totalLE, decide_eq_true_iff, orderKey_eq, orderKey_eq]
  by_cases ha : IsNegative a <;> by_cases hb : IsNegative b
  · rw [if_pos ha, if_pos hb]
    constructor
    · exact fun h => .minus ha hb (by omega)
    · rintro (⟨-, hb'⟩ | ⟨ha', -, -⟩ | ⟨-, -, h⟩)
      · exact absurd hb hb'
      · exact absurd ha ha'
      · omega
  · rw [if_pos ha, if_neg hb]
    exact iff_of_true (by omega) (.signs ha hb)
  · rw [if_neg ha, if_pos hb]
    refine iff_of_false (by omega) ?_
    rintro (⟨ha', -⟩ | ⟨-, hb', -⟩ | ⟨ha', -, -⟩)
    · exact absurd ha' ha
    · exact absurd hb hb'
    · exact absurd ha' ha
  · rw [if_neg ha, if_neg hb]
    constructor
    · exact fun h => .plus ha hb (by omega)
    · rintro (⟨ha', -⟩ | ⟨-, -, h⟩ | ⟨ha', -, -⟩)
      · exact absurd ha' ha
      · omega
      · exact absurd ha' ha

/-! ### The order of numbers -/

/-- The multiple of the smallest positive double that a finite one is. -/
def scaled (negative : Bool) (significand : Nat) (exponent : Int) : Int :=
  let n : Nat := significand * pow2 (exponent - minExponent).toNat
  if negative then -n else n

/-- Of two numbers the first one is at most the second. What is no number does not compare. -/
inductive AtMost : Parts → Parts → Prop
  | bottom {v : Parts} (hv : v ≠ .nan) : AtMost (.infinite true) v
  | top {u : Parts} (hu : u ≠ .nan) : AtMost u (.infinite false)
  | finite {negative negative' : Bool} {significand significand' : Nat} {exponent exponent' : Int}
    (h : scaled negative significand exponent ≤ scaled negative' significand' exponent') :
    AtMost (.finite negative significand exponent) (.finite negative' significand' exponent')

/-- The magnitude of the infinite doubles, beyond which there are no numbers. -/
def infinity : Nat := (pow2 11 - 1) * pow2 52

/-- The multiple of the smallest positive double that a finite magnitude stands for. -/
def multiple (m : Nat) : Nat :=
  if m / pow2 52 = 0 then m % pow2 52 else (pow2 52 + m % pow2 52) * pow2 (m / pow2 52 - 1)

theorem pow2_52 : pow2 52 = 4503599627370496 := rfl

theorem multiple_lt {m e : Nat} (h : m / pow2 52 < e) : multiple m < pow2 52 * pow2 (e - 1) := by
  have hfraction : m % pow2 52 < pow2 52 := Nat.mod_lt _ (pow2_pos 52)
  unfold multiple
  generalize m / pow2 52 = biased at h ⊢
  split
  · exact Nat.lt_of_lt_of_le hfraction (Nat.le_mul_of_pos_right _ (pow2_pos _))
  · next hzero =>
    calc (pow2 52 + m % pow2 52) * pow2 (biased - 1)
        < (pow2 52 * 2) * pow2 (biased - 1) :=
          Nat.mul_lt_mul_of_pos_right (by omega) (pow2_pos _)
      _ = pow2 52 * pow2 (biased - 1 + 1) := by rw [pow2_succ (biased - 1), Nat.mul_assoc]
      _ ≤ pow2 52 * pow2 (e - 1) := Nat.mul_le_mul_left _ (pow2_mono (by omega))

/-- Numbers grow with their magnitudes. -/
theorem multiple_mono {m n : Nat} (h : m ≤ n) : multiple m ≤ multiple n := by
  by_cases he : m / pow2 52 = n / pow2 52
  · -- the fraction decides
    have hfraction : m % pow2 52 ≤ n % pow2 52 := by
      rw [pow2_52] at he ⊢
      omega
    unfold multiple
    rw [he]
    split
    · exact hfraction
    · exact Nat.mul_le_mul_right _ (Nat.add_le_add_left hfraction _)
  · have hlt : m / pow2 52 < n / pow2 52 :=
      Nat.lt_of_le_of_ne (Nat.div_le_div_right h) he
    refine Nat.le_of_lt (Nat.lt_of_lt_of_le (multiple_lt hlt) ?_)
    rw [multiple, if_neg (Nat.ne_zero_of_lt hlt)]
    exact Nat.mul_le_mul_right _ (Nat.le_add_right _ _)

/-- The parts of a double by its sign and its magnitude. -/
theorem partsOf_eq (a : UInt64) : partsOf a =
    if magnitude a / pow2 52 = pow2 11 - 1 then
      if magnitude a % pow2 52 = 0 then .infinite (decide (IsNegative a)) else .nan
    else if magnitude a / pow2 52 = 0 then
      .finite (decide (IsNegative a)) (magnitude a % pow2 52) minExponent
    else .finite (decide (IsNegative a)) (pow2 52 + magnitude a % pow2 52)
      (minExponent + (magnitude a / pow2 52 - 1 : Nat)) := by
  have hpower : pow2 11 = 2048 := rfl
  have hbiased : a.toNat / pow2 52 % pow2 11 = magnitude a / pow2 52 := by
    rw [magnitude_eq, pow2_52, hpower]
    omega
  have hfraction : a.toNat % pow2 52 = magnitude a % pow2 52 := by
    rw [magnitude_eq, pow2_52]
    omega
  rw [← hbiased, ← hfraction]
  rfl

/-- A finite double is its multiple under its sign. -/
theorem partsOf_of_lt (h : magnitude a < infinity) : ∃ significand exponent,
    partsOf a = .finite (decide (IsNegative a)) significand exponent ∧
      significand * pow2 (exponent - minExponent).toNat = multiple (magnitude a) := by
  have hbiased : magnitude a / pow2 52 ≠ pow2 11 - 1 :=
    Nat.ne_of_lt (Nat.div_lt_of_lt_mul (Nat.mul_comm _ _ ▸ h))
  rw [partsOf_eq, if_neg hbiased, multiple]
  by_cases hzero : magnitude a / pow2 52 = 0
  · have hexponent : pow2 (minExponent - minExponent).toNat = 1 := rfl
    rw [if_pos hzero, if_pos hzero]
    exact ⟨_, _, rfl, by rw [hexponent, Nat.mul_one]⟩
  · have hexponent : (minExponent + (magnitude a / pow2 52 - 1 : Nat) - minExponent).toNat =
        magnitude a / pow2 52 - 1 := by omega
    rw [if_neg hzero, if_neg hzero]
    exact ⟨_, _, rfl, by rw [hexponent]⟩

theorem partsOf_of_eq (h : magnitude a = infinity) :
    partsOf a = .infinite (decide (IsNegative a)) := by
  have hbiased : magnitude a / pow2 52 = pow2 11 - 1 := by rw [h]; rfl
  have hfraction : magnitude a % pow2 52 = 0 := by rw [h]; rfl
  rw [partsOf_eq, if_pos hbiased, if_pos hfraction]

/-- What is no number lies beyond infinity. -/
theorem partsOf_eq_nan_iff : partsOf a = .nan ↔ infinity < magnitude a := by
  rcases Nat.lt_trichotomy (magnitude a) infinity with h | h | h
  · obtain ⟨significand, exponent, hparts, -⟩ := partsOf_of_lt h
    rw [hparts]
    exact iff_of_false nofun (by omega)
  · rw [partsOf_of_eq h]
    exact iff_of_false nofun (by omega)
  · have hinfinity : infinity = 9218868437227405312 := rfl
    have hpower : pow2 11 = 2048 := rfl
    have hbiased : magnitude a / pow2 52 = pow2 11 - 1 := by
      rw [magnitude_eq] at h ⊢
      rw [pow2_52, hpower]
      omega
    have hfraction : magnitude a % pow2 52 ≠ 0 := by
      rw [magnitude_eq] at h ⊢
      rw [pow2_52]
      omega
    rw [partsOf_eq, if_pos hbiased, if_neg hfraction]
    exact iff_of_true rfl h

theorem atMost_of_lt (h : TotalOrder a b) (ha : magnitude a < infinity)
    (hb : magnitude b < infinity) : AtMost (partsOf a) (partsOf b) := by
  obtain ⟨m, e, hparts, hmultiple⟩ := partsOf_of_lt ha
  obtain ⟨m', e', hparts', hmultiple'⟩ := partsOf_of_lt hb
  rw [hparts, hparts']
  refine .finite ?_
  unfold scaled
  rw [hmultiple, hmultiple']
  cases h with
  | signs ha hb =>
    simp only [ha, hb, decide_true, decide_false, if_true, Bool.false_eq_true, if_false]
    omega
  | plus ha hb h =>
    have hmono := multiple_mono h
    simp only [ha, hb, decide_false, Bool.false_eq_true, if_false]
    omega
  | minus ha hb h =>
    have hmono := multiple_mono h
    simp only [ha, hb, decide_true, if_true]
    omega

/-- Numbers stand in their own order. -/
theorem atMost_of_totalOrder (h : TotalOrder a b) (ha : partsOf a ≠ .nan)
    (hb : partsOf b ≠ .nan) : AtMost (partsOf a) (partsOf b) := by
  have hle : magnitude a ≤ infinity := Nat.not_lt.1 (mt partsOf_eq_nan_iff.2 ha)
  have hle' : magnitude b ≤ infinity := Nat.not_lt.1 (mt partsOf_eq_nan_iff.2 hb)
  rcases Nat.lt_or_eq_of_le hle with hlt | heq
  · rcases Nat.lt_or_eq_of_le hle' with hlt' | heq'
    · exact atMost_of_lt h hlt hlt'
    · -- the infinite one with a minus sign would come first
      have hplus : ¬ IsNegative b := fun hminus => by
        cases h with
        | signs _ hb => exact hb hminus
        | plus _ hb _ => exact hb hminus
        | minus _ _ h => omega
      rw [partsOf_of_eq heq', decide_eq_false hplus]
      exact .top ha
  · by_cases hminus : IsNegative a
    · rw [partsOf_of_eq heq, decide_eq_true hminus]
      exact .bottom hb
    · -- no number comes after the infinite one but itself
      cases h with
      | signs ha _ => exact absurd ha hminus
      | plus _ hplus h =>
        have heq' : magnitude b = infinity := by omega
        rw [partsOf_of_eq heq', decide_eq_false hplus]
        exact .top ha
      | minus ha _ _ => exact absurd ha hminus

/-- What is no number and has a plus sign comes after all numbers, and nothing else does. -/
theorem totalOrder_nan_iff (ha : partsOf a ≠ .nan) (hb : partsOf b = .nan) :
    TotalOrder a b ↔ ¬ IsNegative b := by
  have hle : magnitude a ≤ infinity := Nat.not_lt.1 (mt partsOf_eq_nan_iff.2 ha)
  have hlt : infinity < magnitude b := partsOf_eq_nan_iff.1 hb
  constructor
  · rintro (⟨-, hplus⟩ | ⟨-, hplus, -⟩ | ⟨-, -, h⟩)
    · exact hplus
    · exact hplus
    · omega
  · intro hplus
    by_cases hminus : IsNegative a
    · exact .signs hminus hplus
    · exact .plus hminus hplus (by omega)

/-- What is no number and has a minus sign comes before all numbers, and nothing else does. -/
theorem nan_totalOrder_iff (ha : partsOf a ≠ .nan) (hb : partsOf b = .nan) :
    TotalOrder b a ↔ IsNegative b := by
  constructor
  · intro h
    refine Decidable.byContradiction fun hplus => ?_
    have heq := h.antisymm ((totalOrder_nan_iff ha hb).2 hplus)
    exact ha (heq ▸ hb)
  · intro hminus
    have hnot := mt (totalOrder_nan_iff ha hb).1 (not_not_intro hminus)
    exact (TotalOrder.total a b).resolve_left hnot

-- what is no number has a place on either side of the infinite doubles
example : totalLE 0xFFF8000000000000 0xFFF0000000000000 ∧
    totalLE 0xFFF0000000000000 0x7FF0000000000000 ∧
    totalLE 0x7FF0000000000000 0x7FF8000000000000 := by decide

end VpnDirectory.Binary64
