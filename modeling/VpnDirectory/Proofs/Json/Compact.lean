import VpnDirectory.Json.Printer
import VpnDirectory.Proofs.Text.Visible

/-!
# Compact texts stand on one line

* `Number.visible_chars` : the text of a number is made of visible characters;
* `Json.newline_not_mem_compactChars` : a compact text has no line feed, since those of the texts in
  it are escaped.
-/

namespace VpnDirectory

open Text (isVisible)

/-! ### Numbers -/

namespace Layout

variable {digits : List Char}

theorem visible_natural (n : Nat) : ∀ c ∈ natural n, isVisible c := by
  intro c hc
  have hdigit : c.isDigit := Nat.isDigit_of_mem_toDigits (by decide) (by decide) hc
  simp only [Char.isDigit, Bool.and_eq_true, decide_eq_true_eq] at hdigit
  exact Text.isVisible_of_le (a := '0') (b := '9') (by decide) (by decide) hdigit.1 hdigit.2

theorem visible_integer (n : Int) : ∀ c ∈ integer n, isVisible c := by
  cases n with
  | ofNat n => exact visible_natural n
  | negSucc n =>
    rw [integer, List.forall_mem_cons]
    exact ⟨by decide, visible_natural (n + 1)⟩

theorem visible_sign (negative : Bool) : ∀ c ∈ sign negative, isVisible c := by
  cases negative <;> exact List.all_eq_true.1 rfl

theorem visible_dropZeros (h : ∀ c ∈ digits, isVisible c) :
    ∀ c ∈ dropZeros digits, isVisible c := by
  intro c hc
  rw [dropZeros, List.mem_reverse] at hc
  exact h c (List.mem_reverse.1 ((List.dropWhile_sublist _).subset hc))

theorem visible_zeros (n : Nat) : ∀ c ∈ List.replicate n '0', isVisible c := by
  intro c hc
  rw [List.eq_of_mem_replicate hc]
  decide

theorem visible_plain (h : ∀ c ∈ digits, isVisible c) (exponent : Int) :
    ∀ c ∈ plain digits exponent, isVisible c := by
  have hpoint : isVisible '.' := by decide
  rw [plain]
  split
  · simp only [List.forall_mem_cons, List.forall_mem_append]
    exact ⟨⟨by decide, hpoint, visible_zeros _⟩, h⟩
  · simp only [List.forall_mem_cons, List.forall_mem_append]
    refine ⟨⟨fun c hc => h c (List.mem_of_mem_take hc), visible_zeros _⟩, hpoint, ?_⟩
    split
    · exact List.all_eq_true.1 rfl
    · exact fun c hc => h c (List.mem_of_mem_drop hc)

theorem visible_scientific (h : ∀ c ∈ digits, isVisible c) (exponent : Int) :
    ∀ c ∈ scientific digits exponent, isVisible c := by
  have hpower : ∀ c ∈ if exponent < 0 then integer exponent else '+' :: integer exponent,
      isVisible c := by
    split
    · exact visible_integer exponent
    · exact List.forall_mem_cons.2 ⟨by decide, visible_integer exponent⟩
  simp only [scientific, List.forall_mem_append, List.forall_mem_cons]
  refine ⟨?_, by decide, hpower⟩
  split
  · simp
  · exact h
  · simp only [List.forall_mem_cons] at h ⊢
    exact ⟨h.1, by decide, h.2⟩

theorem visible_shortest {x : Float} {cs : List Char} (h : shortest? x = some cs) :
    ∀ c ∈ cs, isVisible c := by
  rw [shortest?] at h
  split at h
  · cases h
    rw [List.forall_mem_append]
    exact ⟨visible_sign _, List.all_eq_true.1 rfl⟩
  · cases h
    rw [List.forall_mem_append]
    refine ⟨visible_sign _, ?_⟩
    split
    · exact visible_plain (visible_dropZeros (visible_natural _)) _
    · exact visible_scientific (visible_dropZeros (visible_natural _)) _
  · cases h

end Layout

/-- The text of a number is made of visible characters. -/
theorem Number.visible_chars (n : Number) : ∀ c ∈ n.chars, isVisible c := by
  cases n with
  | whole n => exact Layout.visible_integer n
  | real x =>
    rw [Number.chars]
    cases h : Layout.shortest? x with
    | none => exact List.all_eq_true.1 rfl
    | some cs => exact Layout.visible_shortest h

namespace Json

/-! ### Values -/

theorem newline_not_mem_escape (c : Char) : '\n' ∉ escape c := by
  fun_cases escape c with
  | case8 c _ _ _ _ hn =>
    -- the code point in two hexadecimal digits
    have hdigit : ∀ k < 16, Nat.digitChar k ≠ '\n' := by decide
    have h1 := hdigit (c.toNat / 16) (by omega)
    have h2 := hdigit (c.toNat % 16) (by omega)
    simp [h1.symm, h2.symm]
  | case9 => simp_all [eq_comm]
  | _ => decide

theorem newline_not_mem_quote (s : String) : '\n' ∉ quote s := by
  simp [quote, newline_not_mem_escape]

mutual

/-- A compact text has no line feed. -/
theorem newline_not_mem_compactChars (v : Json) : '\n' ∉ v.compactChars := by
  match v with
  | null => decide
  | bool b => cases b <;> decide
  | number n => exact Text.not_mem_of_visible (by decide) n.visible_chars
  | text s => exact newline_not_mem_quote s
  | array [] => decide
  | array (x :: xs) =>
    simp [compactChars, newline_not_mem_compactChars x, newline_not_mem_compactItems xs]
  | object [] => decide
  | object ((k, v) :: ms) =>
    simp [compactChars, newline_not_mem_quote, newline_not_mem_compactChars v,
      newline_not_mem_compactMembers ms]

theorem newline_not_mem_compactItems (xs : List Json) : '\n' ∉ compactItems xs := by
  match xs with
  | [] => decide
  | x :: xs =>
    simp [compactItems, newline_not_mem_compactChars x, newline_not_mem_compactItems xs]

theorem newline_not_mem_compactMembers (ms : List (String × Json)) : '\n' ∉ compactMembers ms := by
  match ms with
  | [] => decide
  | (k, v) :: ms =>
    simp [compactMembers, newline_not_mem_quote, newline_not_mem_compactChars v,
      newline_not_mem_compactMembers ms]

end

end Json

end VpnDirectory
