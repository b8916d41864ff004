import VpnDirectory.Number.Numeral
import VpnDirectory.Proofs.Text.Words

/-!
# Visible characters

`Text.isVisible` are the ASCII characters that show: digits, letters and marks. None of them is a
blank (`Text.isBlank_eq_false_of_isVisible`), so a text of visible characters stands on one line,
and is a word unless it is empty (`Text.isWord_of_visible`).
-/

namespace VpnDirectory.Text

/-- Is the character an ASCII character that shows? -/
def isVisible (c : Char) : Bool := 0x21 ≤ c.toNat && c.toNat ≤ 0x7e

variable {c : Char} {cs : List Char}

theorem isVisible_of_le {a b : Char} (ha : 0x21 ≤ a.toNat) (hb : b.toNat ≤ 0x7e) (hac : a ≤ c)
    (hcb : c ≤ b) : isVisible c := by
  rw [Char.le_def, UInt32.le_iff_toNat_le] at hac hcb
  change a.toNat ≤ c.toNat at hac
  change c.toNat ≤ b.toNat at hcb
  simp only [isVisible, Bool.and_eq_true, decide_eq_true_eq]
  omega

theorem isVisible_of_isDigit (h : isDigit c) : isVisible c := by
  simp only [isDigit, Bool.and_eq_true, decide_eq_true_eq] at h
  exact isVisible_of_le (by decide) (by decide) h.1 h.2

theorem isVisible_of_isHexDigit (h : isHexDigit c) : isVisible c := by
  simp only [isHexDigit, Bool.or_eq_true, Bool.and_eq_true, decide_eq_true_eq] at h
  rcases h with (h | h) | h
  · exact isVisible_of_isDigit h
  · exact isVisible_of_le (by decide) (by decide) h.1 h.2
  · exact isVisible_of_le (by decide) (by decide) h.1 h.2

theorem isBlank_eq_false_of_isVisible (h : isVisible c) : isBlank c = false := by
  simp only [isVisible, Bool.and_eq_true, decide_eq_true_eq] at h
  simp only [isBlank, Bool.or_eq_false_iff, Bool.and_eq_false_iff, decide_eq_false_iff_not,
    beq_eq_false_iff_ne]
  omega

theorem isWord_of_visible (hne : cs ≠ []) (h : ∀ c ∈ cs, isVisible c) : IsWord cs :=
  ⟨hne, fun c hc => isBlank_eq_false_of_isVisible (h c hc)⟩

/-- Visible characters are not trimmed off. -/
theorem trim_of_visible (h : ∀ c ∈ cs, isVisible c) : trim cs = cs := by
  obtain ⟨a, b, hcs, ha, hb⟩ := exists_blanks_trim cs
  have hnil (ds : List Char) (hds : ∀ c ∈ ds, isBlank c) (hmem : ∀ c ∈ ds, c ∈ cs) : ds = [] := by
    cases ds with
    | nil => rfl
    | cons d ds =>
      have hblank := hds d List.mem_cons_self
      rw [isBlank_eq_false_of_isVisible (h d (hmem d List.mem_cons_self))] at hblank
      cases hblank
  have hfront : a = [] := hnil a ha fun c hc => by rw [hcs]; simp [hc]
  have hback : b = [] := hnil b hb fun c hc => by rw [hcs]; simp [hc]
  rw [hfront, hback, List.nil_append, List.append_nil] at hcs
  exact hcs.symm

/-- Nothing invisible stands among visible characters. -/
theorem not_mem_of_visible (hc : isVisible c = false) (h : ∀ c ∈ cs, isVisible c) : c ∉ cs := by
  intro hmem
  rw [h c hmem] at hc
  cases hc

/-- The text is made of visible characters and spaces, so that it stands on one line. -/
def IsPrinted (cs : List Char) : Prop := ∀ c ∈ cs, isVisible c ∨ c = ' '

instance (cs : List Char) : Decidable (IsPrinted cs) :=
  decidable_of_iff (cs.all fun c => isVisible c || c = ' ') (by simp [IsPrinted])

theorem isPrinted_append {cs ds : List Char} :
    IsPrinted (cs ++ ds) ↔ IsPrinted cs ∧ IsPrinted ds := List.forall_mem_append

theorem isPrinted_of_visible (h : ∀ c ∈ cs, isVisible c) : IsPrinted cs :=
  fun c hc => .inl (h c hc)

theorem not_mem_of_isPrinted (hc : isVisible c = false ∧ c ≠ ' ') (h : IsPrinted cs) : c ∉ cs := by
  intro hmem
  rcases h c hmem with hvisible | hspace
  · rw [hc.1] at hvisible
    cases hvisible
  · exact hc.2 hspace

end VpnDirectory.Text
