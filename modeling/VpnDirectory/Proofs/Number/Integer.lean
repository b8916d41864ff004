import VpnDirectory.Number.Layout
import VpnDirectory.Number.Scaling
import VpnDirectory.Proofs.Number.Rounding
import VpnDirectory.Proofs.Text.Visible

/-!
# Whole numbers in decimal digits

* `toList_toString` : the digits of a whole number are those that documents are written with.
* `IsSpelling` : a text spells a whole number, in its digits and with a plus sign if it likes.
  `wholeNumber?_of_isSpelling`, `Numeral.ofText?_of_isSpelling` : it is read as this number, and as
  the numeral `Numeral.ofInt`.
* `Numeral.beyond_toFloat`, `Numeral.beyond_of_scaled?` : the double of a large whole number is
  large, by whichever of the two ways it is read, and becomes a bound of a range
  (`Numeral.truncate_of_beyond`).
-/

namespace VpnDirectory

open Binary64 (Beyond isMinus)
open Float.Model.UnpackedFloat (Sign)

/-! ### Digits -/

theorem isDigit_of_isDigit {c : Char} (h : c.isDigit) : isDigit c := by
  simp only [Char.isDigit, Bool.and_eq_true, decide_eq_true_eq] at h
  simp only [isDigit, Bool.and_eq_true, decide_eq_true_eq]
  exact h

theorem digitValue_of_isDigit {c : Char} (h : isDigit c) : digitValue c = c.toNat - '0'.toNat := by
  rw [digitValue, if_pos h]

theorem digitValue_le_of_isDigit {c : Char} (h : isDigit c) : digitValue c ≤ 9 := by
  rw [digitValue_of_isDigit h]
  simp only [isDigit, Bool.and_eq_true, decide_eq_true_eq, Char.le_def, UInt32.le_iff_toNat_le] at h
  have hnine : '9'.toNat = 57 := rfl
  have hzero : '0'.toNat = 48 := rfl
  have hle : c.toNat ≤ '9'.toNat := h.2
  omega

theorem isDigit_of_mem_natural {n : Nat} : ∀ c ∈ Layout.natural n, isDigit c := fun _ hc =>
  isDigit_of_isDigit (Nat.isDigit_of_mem_toDigits (by decide) (by decide) hc)

theorem natural_ne_nil (n : Nat) : Layout.natural n ≠ [] := Nat.toDigits_ne_nil

theorem digitsValue_eq_ofDigitChars {cs : List Char} (h : ∀ c ∈ cs, isDigit c) :
    digitsValue 10 cs = Nat.ofDigitChars 10 cs 0 := by
  unfold digitsValue
  rw [Nat.ofDigitChars_eq_foldl]
  generalize 0 = init
  induction cs generalizing init with
  | nil => rfl
  | cons c cs ih =>
    rw [List.forall_mem_cons] at h
    rw [List.foldl_cons, List.foldl_cons, digitValue_of_isDigit h.1, ih h.2]

theorem digitsValue_natural (n : Nat) : digitsValue 10 (Layout.natural n) = n := by
  rw [digitsValue_eq_ofDigitChars isDigit_of_mem_natural]
  exact Nat.ofDigitChars_ten_toDigits

/-- No zero leads the digits of a positive number. -/
theorem head?_natural {n : Nat} (hn : 0 < n) : (Layout.natural n).head? ≠ some '0' := by
  induction n using Nat.strongRecOn with
  | ind n ih =>
    unfold Layout.natural at ih ⊢
    by_cases hlt : n < 10
    · rw [Nat.toDigits_of_lt_base hlt]
      have hdigit : ∀ k < 10, 0 < k → [Nat.digitChar k].head? ≠ some '0' := by decide
      exact hdigit n hlt hn
    · have hprefix := ih (n / 10) (by omega) (by omega)
      rw [Nat.toDigits_of_base_le (by decide) (by omega), List.head?_append]
      cases hhead : (Nat.toDigits 10 (n / 10)).head? with
      | none => exact absurd (List.head?_eq_none_iff.1 hhead) Nat.toDigits_ne_nil
      | some c => rwa [hhead] at hprefix

/-- Whole numbers are written in documents as everywhere. -/
theorem toList_toString (n : Int) : (toString n).toList = Layout.integer n := by
  cases n with
  | ofNat n => exact Nat.toList_repr
  | negSucc n =>
    change ("-" ++ Nat.repr (n + 1)).toList = _
    rw [String.toList_append, Nat.toList_repr]
    rfl

theorem integer_of_nonneg {n : Int} (hn : 0 ≤ n) :
    Layout.integer n = Layout.natural n.natAbs := by
  obtain ⟨n, rfl⟩ := Int.eq_ofNat_of_zero_le hn
  rfl

theorem integer_of_neg {n : Int} (hn : n < 0) :
    Layout.integer n = '-' :: Layout.natural n.natAbs := by
  obtain ⟨n, rfl⟩ := Int.eq_negSucc_of_lt_zero hn
  rfl

/-! ### Spellings -/

/-- The text spells the number: in its digits, with a plus sign or without one if it is not
negative. -/
inductive IsSpelling (n : Int) : String → Prop
  | plain : IsSpelling n (toString n)
  | plus (hn : 0 ≤ n) : IsSpelling n ("+" ++ toString n)

/-- The numeral of a whole number. -/
def Numeral.ofInt (n : Int) : Numeral :=
  { negative := decide (n < 0), whole := Layout.natural n.natAbs }

theorem natAbs_eq_of_sign (n : Int) : (if n < 0 then -(n.natAbs : Int) else n.natAbs) = n := by
  split <;> omega

theorem readSign_natural (n : Nat) :
    Numeral.readSign (Layout.natural n) = (none, Layout.natural n) := by
  obtain ⟨c, cs, hcs⟩ := List.exists_cons_of_ne_nil (natural_ne_nil n)
  have hc : isDigit c := isDigit_of_mem_natural c (hcs ▸ List.mem_cons_self)
  rw [hcs]
  unfold Numeral.readSign
  split
  · next heq =>
    cases heq
    cases hc
  · next heq =>
    cases heq
    cases hc
  · rfl

variable {n : Int} {s : String}

/-- A spelling is a sign, which is minus for negative numbers, and the digits. -/
theorem readSign_of_isSpelling (h : IsSpelling n s) : ∃ sign : Option Bool,
    Numeral.readSign s.toList = (sign, Layout.natural n.natAbs) ∧
      (sign = some true ↔ n < 0) := by
  cases h with
  | plain =>
    rw [toList_toString]
    by_cases hn : n < 0
    · rw [integer_of_neg hn]
      exact ⟨some true, rfl, iff_of_true rfl hn⟩
    · rw [integer_of_nonneg (by omega), readSign_natural]
      exact ⟨none, rfl, iff_of_false (by decide) hn⟩
  | plus hn =>
    rw [String.toList_append, toList_toString, integer_of_nonneg hn]
    exact ⟨some false, rfl, iff_of_false (by decide) (by omega)⟩

theorem visible_of_isSpelling (h : IsSpelling n s) : ∀ c ∈ s.toList, Text.isVisible c := by
  have hplain : ∀ c ∈ (toString n).toList, Text.isVisible c := by
    rw [toList_toString]
    have hdigits : ∀ c ∈ Layout.natural n.natAbs, Text.isVisible c := fun c hc =>
      Text.isVisible_of_isDigit (isDigit_of_mem_natural c hc)
    by_cases hn : n < 0
    · rw [integer_of_neg hn, List.forall_mem_cons]
      exact ⟨by decide, hdigits⟩
    · rwa [integer_of_nonneg (by omega)]
  cases h with
  | plain => exact hplain
  | plus hn =>
    have hsign : "+".toList = ['+'] := rfl
    rw [String.toList_append, hsign, List.forall_mem_append, List.forall_mem_singleton]
    exact ⟨rfl, hplain⟩

/-- A spelling is read as the number that it spells. -/
theorem wholeNumber?_of_isSpelling (h : IsSpelling n s) : wholeNumber? s.toList = some n := by
  obtain ⟨sign, hread, hsign⟩ := readSign_of_isSpelling h
  have hdigits : ¬ ((Layout.natural n.natAbs).isEmpty ∨
      !(Layout.natural n.natAbs).all isDigit) := by
    simpa [natural_ne_nil] using isDigit_of_mem_natural (n := n.natAbs)
  unfold wholeNumber?
  rw [hread]
  simp only [if_neg hdigits, digitsValue_natural, Option.some.injEq]
  rw [if_congr hsign rfl rfl, natAbs_eq_of_sign]

theorem span_isDigit_natural (n : Nat) :
    (Layout.natural n).span isDigit = (Layout.natural n, []) := by
  rw [List.span_eq_takeWhile_dropWhile, List.takeWhile_eq_self_iff.2 isDigit_of_mem_natural,
    List.dropWhile_eq_nil_iff.2 isDigit_of_mem_natural]

/-- A spelling is read as the numeral of the number that it spells. -/
theorem Numeral.ofText?_of_isSpelling (h : IsSpelling n s) :
    ofText? s.toList = some (ofInt n) := by
  obtain ⟨sign, hread, hsign⟩ := readSign_of_isSpelling h
  unfold ofText?
  rw [hread]
  simp only [span_isDigit_natural, readFraction, readExponent, natural_ne_nil,
    decide_eq_decide.2 hsign, List.isEmpty_iff, false_and, if_false]
  rfl

namespace Numeral

/-! ### Large numbers -/

theorem coefficient_ofInt (n : Int) : (ofInt n).coefficient = n.natAbs := by
  change digitsValue 10 (Layout.natural n.natAbs ++ []) = _
  rw [List.append_nil, digitsValue_natural]

/-- The sign of a whole number. -/
def signOf (n : Int) : Sign := if n < 0 then .negative else .positive

theorem isMinus_signOf (n : Int) : isMinus (signOf n) = decide (n < 0) := by
  unfold signOf
  by_cases hn : n < 0
  · rw [if_pos hn, decide_eq_true hn]
    rfl
  · rw [if_neg hn, decide_eq_false hn]
    rfl

theorem beyond_signOf {k : Nat} {x : Float} (h : Beyond k .positive x) (n : Int) :
    Beyond k (signOf n) (if decide (n < 0) then -x else x) := by
  unfold signOf
  by_cases hn : n < 0
  · rw [if_pos hn, decide_eq_true hn, if_pos rfl]
    exact h.neg
  · rw [if_neg hn, decide_eq_false hn, if_neg Bool.false_ne_true]
    exact h

/-- Without its fraction, such a double becomes the bound of a range on the side of the sign. -/
theorem truncate_of_beyond {k : Nat} {x : Float} {low high : Int} (h : Beyond k (signOf n) x)
    (hlow : -(pow2 k : Int) ≤ low) (hle : low ≤ high) (hhigh : high ≤ pow2 k) :
    Binary64.truncate low high x = if n < 0 then low else high := by
  rw [Binary64.truncate_of_beyond h hlow hle hhigh, isMinus_signOf]
  exact if_congr decide_eq_true_iff rfl rfl

theorem scale_ofInt (n : Int) : (ofInt n).scale = 0 := rfl

/-- The nearest double to a large whole number is large. -/
theorem beyond_toFloat {k : Nat} (hk : pow2 k ≤ n.natAbs) :
    Beyond k (signOf n) (ofInt n).toFloat := by
  refine beyond_signOf ?_ n
  have hzero : n.natAbs ≠ 0 := Nat.ne_of_gt (Nat.lt_of_lt_of_le (pow2_pos k) hk)
  unfold magnitude
  dsimp only
  rw [coefficient_ofInt, scale_ofInt]
  generalize (Nat.toDigits 10 n.natAbs).length = length
  have hleading : ¬ (n.natAbs = 0 ∨ (0 : Int) + length < minScale) := by
    rw [minScale]
    omega
  rw [if_neg hleading]
  split
  · exact Binary64.beyond_infinity k
  · exact Binary64.beyond_ofScientific (k := 0) (e := 0) hk (by decide)

/-- If digits are left over, the number that the others are gathered into is large. -/
theorem le_gather {k m : Nat} {cs : List Char} (hk : 10 * pow2 k ≤ maxSignificand + 1)
    (hcs : ∀ c ∈ cs, isDigit c) (hleft : (gather m cs).2 ≠ 0) : pow2 k ≤ (gather m cs).1 := by
  fun_induction gather m cs with
  | case1 => exact absurd rfl hleft
  | case2 m c cs _ _ ih => exact ih (fun d hd => hcs d (List.mem_cons_of_mem c hd)) hleft
  | case3 m c cs _ hroom =>
    have hc := digitValue_le_of_isDigit (hcs c List.mem_cons_self)
    omega

theorem beyond_ofNat {k m : Nat} (hk : pow2 k ≤ m) : Beyond k .positive (Float.ofNat m) :=
  Binary64.beyond_ofScientific (k := 0) (e := 0) hk (by decide)

theorem beyond_powerOfTen {k e : Nat} (hk : pow2 k ≤ pow10 e) :
    Beyond (0 + k) .positive (powerOfTen e) :=
  Binary64.beyond_ofScientific (j := 0) (Nat.le_refl 1) hk

theorem pow2_three_le_pow10 {e : Nat} (he : e ≠ 0) : pow2 3 ≤ pow10 e := by
  obtain ⟨e, rfl⟩ := Nat.exists_eq_succ_of_ne_zero he
  have height : pow2 3 = 8 := rfl
  have hpos := pow10_pos e
  rw [pow10_succ]
  omega

theorem eq_mul_of_scaleBy {m places : Nat} {x : Float} (hm : m ≠ 0)
    (h : scaleBy m places = some x) : x = Float.ofNat m * powerOfTen places := by
  unfold scaleBy at h
  rw [if_neg hm, if_pos (Int.natCast_nonneg places), Int.natAbs_natCast] at h
  split at h
  · dsimp only at h
    split at h
    · exact (Option.some.inj h).symm
    · cases h
  · cases h

theorem significand_ofInt (n : Int) : (ofInt n).significand =
    ((gather 0 (Layout.natural n.natAbs)).1, ((gather 0 (Layout.natural n.natAbs)).2 : Int)) := by
  have hscale (places : Nat) : (0 : Int) + places + (0 : Nat) - (0 : Nat) = places := by omega
  exact Prod.ext rfl (hscale _)

/-- The double that a number beyond 64 bits is read as in few steps is large as well. -/
theorem beyond_of_scaled? {x : Float} (hn : pow2 63 ≤ n.natAbs) (h : (ofInt n).scaled? = some x) :
    Beyond 63 (signOf n) x := by
  unfold scaled? at h
  rw [significand_ofInt] at h
  dsimp only at h
  obtain ⟨y, hy, rfl⟩ := Option.map_eq_some_iff.1 h
  refine beyond_signOf ?_ n
  have hne {k m : Nat} (hm : pow2 k ≤ m) : m ≠ 0 :=
    Nat.ne_of_gt (Nat.lt_of_lt_of_le (pow2_pos k) hm)
  by_cases hleft : (gather 0 (Layout.natural n.natAbs)).2 = 0
  · have hall : (gather 0 (Layout.natural n.natAbs)).1 = n.natAbs :=
      (gather_eq_foldl hleft).trans (digitsValue_natural n.natAbs)
    rw [hall, hleft] at hy
    rw [eq_mul_of_scaleBy (hne hn) hy]
    exact (beyond_ofNat hn).mul (beyond_powerOfTen (k := 0) (e := 0) (by decide))
  · have hgather : pow2 60 ≤ _ := le_gather (by decide) isDigit_of_mem_natural hleft
    rw [eq_mul_of_scaleBy (hne hgather) hy]
    exact (beyond_ofNat hgather).mul (beyond_powerOfTen (pow2_three_le_pow10 hleft))

end Numeral

end VpnDirectory
