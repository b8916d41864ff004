import VpnDirectory.Net.Port
import VpnDirectory.Proofs.Text.Visible

/-!
# Port texts

A text that is read as a port is a word of visible characters.
-/

namespace VpnDirectory.Port

open Text (isVisible)

variable {s : String} {p : Port}

theorem digits_of_ofText? (h : ofText? s = some p) :
    digits s.toList ≠ [] ∧ ∀ c ∈ digits s.toList, isDigit c := by
  rw [ofText?] at h
  simp only [Option.ite_none_left_eq_some] at h
  simpa using h.1

theorem eq_digits_or (cs : List Char) : cs = digits cs ∨ cs = '+' :: digits cs := by
  fun_cases digits cs with
  | case1 cs => exact .inr rfl
  | case2 => exact .inl rfl

theorem visible_of_ofText? (h : ofText? s = some p) : ∀ c ∈ s.toList, isVisible c := by
  have hall : ∀ c ∈ digits s.toList, isVisible c := fun c hc =>
    Text.isVisible_of_isDigit ((digits_of_ofText? h).2 c hc)
  rcases eq_digits_or s.toList with heq | heq
  · rwa [heq]
  · rw [heq, List.forall_mem_cons]
    exact ⟨by decide, hall⟩

theorem isWord_of_ofText? (h : ofText? s = some p) : Text.IsWord s.toList := by
  refine Text.isWord_of_visible (fun hnil => ?_) (visible_of_ofText? h)
  have hne := (digits_of_ofText? h).1
  rw [hnil] at hne
  exact hne rfl

end VpnDirectory.Port
