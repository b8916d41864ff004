import Mathlib.Data.List.Perm.Basic

/-!
# Choices from three lists

A list that has an element for every choice from three lists, one choice after another.

* `RunsThrough` : the choices from the last list follow each other, those from the first one stand
  farthest apart. There are as many elements as choices, and the element of each choice has its
  place.
* `RunsThrough.of_flatMap` : loops inside of each other run through their lists.
* `flatMap_comm_perm` : the loops may be exchanged, up to the order of what they give.
-/

namespace VpnDirectory

variable {α β γ δ : Type}

/-- The list has an element for every choice from three lists. The last list is run through for
every choice from the first two, and the second one for every choice from the first. -/
structure RunsThrough (l : List δ) (xs : List α) (ys : List β) (zs : List γ) (f : α → β → γ → δ) :
    Prop where
  length : l.length = xs.length * ys.length * zs.length
  place : ∀ (i : Fin xs.length) (j : Fin ys.length) (k : Fin zs.length),
    l[(i * ys.length + j) * zs.length + k]? = some (f xs[i] ys[j] zs[k])

/-- Lists of the same length one after another: where an element of one of them stands. -/
theorem getElem?_flatMap {n : Nat} {f : α → List β} (hf : ∀ x, (f x).length = n) (xs : List α)
    (i : Nat) {j : Nat} (hj : j < n) :
    (xs.flatMap f)[i * n + j]? = xs[i]?.bind fun x => (f x)[j]? := by
  -- the first list takes up the first `n` places, and the others stand `n` places farther on
  induction xs generalizing i with
  | nil => simp
  | cons x xs ih =>
    rw [List.flatMap_cons]
    cases i with
    | zero =>
      have hfirst : 0 * n + j < (f x).length := by
        rw [hf]
        omega
      rw [List.getElem?_append_left hfirst, Nat.zero_mul, Nat.zero_add]
      rfl
    | succ i =>
      have hshift : (i + 1) * n + j = n + (i * n + j) := by
        rw [Nat.succ_mul]
        omega
      have hrest : (f x).length ≤ n + (i * n + j) := by
        rw [hf]
        omega
      rw [hshift, List.getElem?_append_right hrest, hf, Nat.add_sub_cancel_left, ih]
      rfl

/-- Loops inside of each other run through their lists. -/
theorem RunsThrough.of_flatMap (xs : List α) (ys : List β) (zs : List γ) (f : α → β → γ → δ) :
    RunsThrough (xs.flatMap fun x => ys.flatMap fun y => zs.map (f x y)) xs ys zs f := by
  have hinner (x : α) (y : β) : (zs.map (f x y)).length = zs.length := List.length_map _
  have houter (x : α) :
      (ys.flatMap fun y => zs.map (f x y)).length = ys.length * zs.length := by
    simp [List.length_flatMap]
  refine ⟨by simp [List.length_flatMap, Nat.mul_assoc], fun i j k => ?_⟩
  have hplace : (i * ys.length + j) * zs.length + k =
      i * (ys.length * zs.length) + (j * zs.length + k) := by
    rw [Nat.add_mul, Nat.mul_assoc, Nat.add_assoc]
  have hblock : j * zs.length + k < ys.length * zs.length := by
    calc j * zs.length + k < j * zs.length + zs.length := Nat.add_lt_add_left k.isLt _
      _ = (j + 1) * zs.length := (Nat.succ_mul _ _).symm
      _ ≤ ys.length * zs.length := Nat.mul_le_mul_right _ j.isLt
  rw [hplace, getElem?_flatMap houter xs i hblock, List.getElem?_eq_getElem i.isLt,
    Option.bind_some, getElem?_flatMap (hinner _) ys j k.isLt, List.getElem?_eq_getElem j.isLt,
    Option.bind_some, List.getElem?_map, List.getElem?_eq_getElem k.isLt]
  rfl

/-- Two loops may be exchanged. -/
theorem flatMap_comm_perm (xs : List α) (ys : List β) (f : α → β → List γ) :
    (xs.flatMap fun x => ys.flatMap fun y => f x y).Perm
      (ys.flatMap fun y => xs.flatMap fun x => f x y) := by
  induction xs with
  | nil => simp
  | cons x xs ih =>
    simp only [List.flatMap_cons]
    exact (ih.append_left _).trans (List.flatMap_append_perm ys (f x) _)

end VpnDirectory
