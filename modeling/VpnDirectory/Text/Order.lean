/-!
# The order of texts

`precedes` compares texts by the code points of their characters, the first difference deciding; a
text stands before its continuations. Texts encoded as UTF-8 are in the same order byte by byte.
-/

namespace VpnDirectory.Text

/-- Does the first text stand before the second one? -/
def precedes : List Char → List Char → Bool
  | _, [] => false
  | [], _ :: _ => true
  | c :: cs, d :: ds => if c = d then precedes cs ds else decide (c.toNat < d.toNat)

theorem precedes_irrefl (cs : List Char) : precedes cs cs = false := by
  induction cs with
  | nil => rfl
  | cons c cs ih => simpa [precedes] using ih

theorem toNat_injective {c d : Char} (h : c.toNat = d.toNat) : c = d :=
  Char.ext (UInt32.toNat_inj.1 h)

theorem precedes_trans {a b c : List Char} (hab : precedes a b) (hbc : precedes b c) :
    precedes a c := by
  induction a generalizing b c with
  | nil =>
    cases b with
    | nil => simp [precedes] at hab
    | cons y ys =>
      cases c with
      | nil => simp [precedes] at hbc
      | cons z zs => rfl
  | cons x xs ih =>
    cases b with
    | nil => simp [precedes] at hab
    | cons y ys =>
      cases c with
      | nil => simp [precedes] at hbc
      | cons z zs =>
        simp only [precedes] at hab hbc ⊢
        by_cases hxy : x = y
        · subst hxy
          by_cases hyz : x = z
          · subst hyz
            simp only [if_true] at hab hbc ⊢
            exact ih hab hbc
          · simpa [hyz] using hbc
        · by_cases hyz : y = z
          · subst hyz
            simpa [hxy] using hab
          · simp only [hxy, hyz, if_false, decide_eq_true_eq] at hab hbc
            have hxz : x ≠ z := by
              rintro rfl
              omega
            simp only [hxz, if_false, decide_eq_true_eq]
            omega

theorem precedes_or_eq_or_precedes (a b : List Char) :
    precedes a b ∨ a = b ∨ precedes b a := by
  induction a generalizing b with
  | nil => cases b <;> simp [precedes]
  | cons x xs ih =>
    cases b with
    | nil => simp [precedes]
    | cons y ys =>
      simp only [precedes, List.cons.injEq]
      by_cases hxy : x = y
      · subst hxy
        simpa using ih ys
      · have hne : x.toNat ≠ y.toNat := fun h => hxy (toNat_injective h)
        simp only [hxy, Ne.symm hxy, if_false, decide_eq_true_eq, false_and, false_or]
        omega

end VpnDirectory.Text
