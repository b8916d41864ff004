import VpnDirectory.Document.Lenient
import VpnDirectory.Proofs.Fallible
import VpnDirectory.Proofs.Number.Integer

/-!
# Whole numbers as numbers and as texts

A document may hold a whole number as a number or as a text that spells it. A lenient field reads
both, on two ways that agree up to 32 bits and on no number beyond.

* `Json.parse_toString_eq_ok_iff` : what the digits of a whole number are read as.
* `Lenient.whole_number` : a number outside the bounds counts as zero, whether it is kept as it is
  or as a double.
* `Lenient.whole_text` : a text that spells such a number counts as the nearer bound.
* `Lenient.whole_number_eq_whole_text_iff` : where the two are equal.
-/

namespace VpnDirectory

/-! ### Digits in a document -/

namespace Json

namespace Token

theorem readNumeral_integer (n : Int) :
    readNumeral (Layout.integer n) = some (.ofInt n, []) := by
  -- a zero stands in front only if it is the only digit
  have hleading (c : Char) (cs : List Char) : Layout.natural n.natAbs ≠ '0' :: c :: cs := by
    intro heq
    rcases Nat.eq_zero_or_pos n.natAbs with hzero | hpos
    · rw [hzero] at heq
      cases heq
    · exact head?_natural hpos (congrArg List.head? heq)
  have hform : ¬ ((Layout.natural n.natAbs).isEmpty ∨ false = true ∨
      none = some ([] : List Char)) := by
    simp [natural_ne_nil]
  by_cases hn : n < 0
  · rw [integer_of_neg hn]
    unfold readNumeral
    simp only [span_isDigit_natural, Numeral.readFraction, Numeral.readExponent, if_neg hform]
    rw [Numeral.ofInt, decide_eq_true hn]
    rfl
  · have hminus (cs : List Char) : Layout.natural n.natAbs ≠ '-' :: cs := by
      intro heq
      have hdigit := isDigit_of_mem_natural '-' (n := n.natAbs) (heq ▸ List.mem_cons_self)
      cases hdigit
    rw [integer_of_nonneg (by omega)]
    unfold readNumeral
    simp only [span_isDigit_natural, Numeral.readFraction, Numeral.readExponent, if_neg hform]
    rw [Numeral.ofInt, decide_eq_false hn]
    rfl

/-- A digit or a minus sign starts a numeral and nothing else. -/
theorem next_eq_readNumeral {c : Char} (hc : isDigit c ∨ c = '-') (cs : List Char) :
    next (c :: cs) = match readNumeral (c :: cs) with
      | some (n, cs) => (number (Number.ofNumeral? n), cs)
      | none => (bad, []) := by
  unfold next
  split
  case h_11 => rfl
  all_goals
    next heq =>
      cases heq
      simp [isDigit] at hc

theorem isBlank_eq_false_of_starts {c : Char} (hc : isDigit c ∨ c = '-') : isBlank c = false := by
  rw [Bool.eq_false_iff]
  intro hblank
  simp only [isBlank, Bool.or_eq_true, decide_eq_true_eq] at hblank
  rcases hblank with ((rfl | rfl) | rfl) | rfl <;> simp [isDigit] at hc

/-- The digits of a whole number are one token. -/
theorem scan_integer (n : Int) :
    scan (Layout.integer n) = [number (Number.ofNumeral? (.ofInt n))] := by
  obtain ⟨c, cs, hcs, hc⟩ : ∃ c cs, Layout.integer n = c :: cs ∧ (isDigit c ∨ c = '-') := by
    by_cases hn : n < 0
    · exact ⟨'-', _, integer_of_neg hn, .inr rfl⟩
    · obtain ⟨c, cs, hcs⟩ := List.exists_cons_of_ne_nil (natural_ne_nil n.natAbs)
      rw [integer_of_nonneg (by omega)]
      exact ⟨c, cs, hcs, .inl (isDigit_of_mem_natural c (hcs ▸ List.mem_cons_self))⟩
  have hnext := next_eq_readNumeral hc cs
  have hstart : (Layout.integer n).dropWhile isBlank = c :: cs := by
    rw [hcs, List.dropWhile_cons_of_neg (by simp [isBlank_eq_false_of_starts hc])]
  have hshorter : ([] : List Char).length < (Layout.integer n).length := by simp [hcs]
  rw [← hcs, readNumeral_integer, hcs] at hnext
  rw [scan, hstart]
  simp only [hnext, if_pos hshorter]
  rw [scan]
  rfl

end Token

/-- What a whole number is read as that stands in a document by itself. -/
theorem parse_toString_eq_ok_iff {n : Int} {v : Json} : parse (toString n) = .ok v ↔
    ∃ m, Number.ofNumeral? (.ofInt n) = some m ∧ v = .number m := by
  unfold parse
  rw [toList_toString, Token.scan_integer]
  cases hm : Number.ofNumeral? (.ofInt n) with
  | none => simp [readValue, readInside, Rules.used]
  | some m => simp [readValue, readInside, continueWith, Rules.used, atEnd, eq_comm]

end Json

namespace Number

/-- A whole number is kept as it is, unless it lies beyond 64 bits. -/
theorem ofNumeral?_ofInt (n : Int) : ofNumeral? (.ofInt n) = some (.whole n) ∨
    pow2 63 ≤ n.natAbs ∧ ofNumeral? (.ofInt n) = (Numeral.ofInt n).scaled?.map .real := by
  have hunsigned : pow2 64 = 18446744073709551616 := rfl
  have hsigned : pow2 63 = 9223372036854775808 := rfl
  have hwhole : (Numeral.ofInt n).isWhole := rfl
  have hminus : (Numeral.ofInt n).negative = decide (n < 0) := rfl
  unfold ofNumeral?
  rw [Numeral.coefficient_ofInt, hwhole, hminus]
  simp only [Range.contains, unsigned64, Range.int64, Range.signed, Bool.and_eq_true,
    Bool.not_eq_true', decide_eq_true_eq, decide_eq_false_iff_not, true_and, hunsigned, hsigned]
  split
  · left
    congr 2
    omega
  · split
    · left
      congr 2
      omega
    · exact .inr ⟨by omega, rfl⟩

/-- A double that stands for a whole number counts as the bound of 64 bits on its side. -/
theorem truncate_of_scaled? {n : Int} {x : Float} (hn : pow2 63 ≤ n.natAbs)
    (h : (Numeral.ofInt n).scaled? = some x) :
    (Number.real x).truncate = if n < 0 then Range.int64.low else Range.int64.high :=
  Numeral.truncate_of_beyond (Numeral.beyond_of_scaled? hn h) (by decide) (by decide) (by decide)

end Number

/-! ### Bounds -/

namespace Range

/-- The number of a range that is nearest. -/
def nearest (r : Range) (n : Int) : Int :=
  if n < r.low then r.low else if r.high < n then r.high else n

variable {r : Range} {n : Int}

theorem check_of_contains (h : r.contains n) : r.check n = some n := if_pos h

theorem check_of_not_contains (h : ¬ r.contains n) : r.check n = none := if_neg h

theorem nearest_of_contains (h : r.contains n) : r.nearest n = n := by
  rw [contains_iff] at h
  rw [nearest, if_neg (by omega), if_neg (by omega)]

/-- Beyond 32 bits the bound on the side of the sign is the nearest number. -/
theorem int32_nearest (h : ¬ int32.contains n) :
    int32.nearest n = if n < 0 then int32.low else int32.high := by
  have hlow : int32.low = -2147483648 := rfl
  have hhigh : int32.high = 2147483647 := rfl
  rw [contains_iff] at h
  rw [nearest]
  split <;> split <;> omega

theorem pow2_le_natAbs_of_int32 (h : ¬ int32.contains n) : pow2 31 ≤ n.natAbs := by
  have hpower : pow2 31 = 2147483648 := rfl
  rw [contains_int32_iff] at h
  omega

end Range

/-! ### Fields -/

namespace Lenient

variable {n : Int} {s : String}

theorem whole_number {m : Number} (h : Number.ofNumeral? (.ofInt n) = some m) :
    whole (some (.number m)) = (Range.int32.check n).getD 0 := by
  obtain hwhole | ⟨hn, hreal⟩ := Number.ofNumeral?_ofInt n
  · rw [hwhole] at h
    cases h
    rfl
  · rw [hreal] at h
    obtain ⟨x, hx, rfl⟩ := Option.map_eq_some_iff.1 h
    have hout : ¬ Range.int32.contains n := by
      have hpower : pow2 63 = 9223372036854775808 := rfl
      rw [Range.contains_int32_iff]
      omega
    rw [whole, Number.truncate_of_scaled? hn hx, Range.check_of_not_contains hout]
    split <;> rfl

theorem whole_text (h : IsSpelling n s) :
    whole (some (.text s)) = Range.int32.nearest n := by
  have htrim : Text.trim s.toList = s.toList := Text.trim_of_visible (visible_of_isSpelling h)
  change (wholeOfText? s).getD 0 = _
  unfold wholeOfText?
  dsimp only
  rw [htrim, wholeNumber?_of_isSpelling h, Option.bind_some]
  by_cases hin : Range.int32.contains n
  · rw [Range.nearest_of_contains hin, Range.check_of_contains hin]
    rfl
  · have hfloat : float? s.toList = some (Numeral.ofInt n).toFloat := by
      rw [float?, Numeral.ofText?_of_isSpelling h]
    have hbeyond := Numeral.beyond_toFloat (Range.pow2_le_natAbs_of_int32 hin)
    have htruncate := Numeral.truncate_of_beyond hbeyond
      (by decide : -(pow2 31 : Int) ≤ Range.int32.low) (by decide)
      (by decide : Range.int32.high ≤ pow2 31)
    rw [Range.check_of_not_contains hin, hfloat, Range.int32_nearest hin, ← htruncate]
    rfl

/-- The two agree up to 32 bits, and differ on every number beyond. -/
theorem whole_number_eq_whole_text_iff {m : Number}
    (hm : Number.ofNumeral? (.ofInt n) = some m) (hs : IsSpelling n s) :
    whole (some (.number m)) = whole (some (.text s)) ↔ Range.int32.contains n := by
  rw [whole_number hm, whole_text hs]
  constructor
  · intro heq
    by_contra hout
    rw [Range.check_of_not_contains hout, Range.int32_nearest hout] at heq
    split at heq <;> cases heq
  · intro hin
    rw [Range.nearest_of_contains hin, Range.check_of_contains hin]
    rfl

end Lenient

end VpnDirectory
