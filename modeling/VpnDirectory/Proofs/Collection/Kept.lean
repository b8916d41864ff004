import Mathlib.Data.List.Forall2
import VpnDirectory.Proofs.Fallible

/-!
# Lists element by element

Two ways to read a list: every element has to stand for something, or those that stand for nothing
are dropped.

* `mapM_eq_ok_iff`, `exists_mapM_iff` : a list is read exactly when each of its elements is.
* `Kept`, `kept_iff` : what is left of a list without the elements that stand for nothing.
-/

namespace VpnDirectory

variable {ε α β : Type} {f : α → Except ε β} {xs : List α} {ys : List β}

/-! ### Every element -/

theorem mapM_eq_ok_iff : xs.mapM f = .ok ys ↔ List.Forall₂ (fun x y => f x = .ok y) xs ys := by
  induction xs generalizing ys with
  | nil =>
    rw [List.mapM_nil, List.forall₂_nil_left_iff]
    show (.ok [] : Except ε (List β)) = .ok ys ↔ _
    rw [Except.ok.injEq, eq_comm]
  | cons x xs ih =>
    rw [List.mapM_cons, bind_eq_ok_iff, List.forall₂_cons_left_iff]
    constructor
    · rintro ⟨y, hy, hys⟩
      obtain ⟨ys', hys', h⟩ := bind_eq_ok_iff.1 hys
      exact ⟨y, ys', hy, ih.1 hys', (Except.ok.inj h).symm⟩
    · rintro ⟨y, ys', hy, hys', rfl⟩
      exact ⟨y, hy, bind_eq_ok_iff.2 ⟨ys', ih.2 hys', rfl⟩⟩

theorem exists_mapM_iff : (∃ ys, xs.mapM f = .ok ys) ↔ ∀ x ∈ xs, ∃ y, f x = .ok y := by
  simp only [mapM_eq_ok_iff]
  induction xs with
  | nil => simp
  | cons x xs ih =>
    rw [List.forall_mem_cons, ← ih]
    constructor
    · rintro ⟨ys, hys⟩
      obtain ⟨y, ys', hy, hys', -⟩ := List.forall₂_cons_left_iff.1 hys
      exact ⟨⟨y, hy⟩, ys', hys'⟩
    · rintro ⟨⟨y, hy⟩, ys, hys⟩
      exact ⟨y :: ys, .cons hy hys⟩

/-- What stands at a place depends on the element at the place alone. -/
theorem getElem?_of_mapM (h : xs.mapM f = .ok ys) (i : Nat) :
    ys[i]? = xs[i]?.bind fun x => (f x).toOption := by
  rw [mapM_eq_ok_iff] at h
  induction h generalizing i with
  | nil => rfl
  | cons hy _ ih =>
    cases i with
    | zero => exact (toOption_eq_some_iff.2 hy).symm
    | succ i => exact ih i

/-! ### Elements that stand for something -/

/-- The elements that stand for something are kept in their order, and the others are dropped. -/
inductive Kept (R : α → β → Prop) : List α → List β → Prop
  | nil : Kept R [] []
  | keep {x : α} {y : β} {xs : List α} {ys : List β} (h : R x y) (rest : Kept R xs ys) :
    Kept R (x :: xs) (y :: ys)
  | drop {x : α} {xs : List α} {ys : List β} (h : ∀ y, ¬ R x y) (rest : Kept R xs ys) :
    Kept R (x :: xs) ys

theorem kept_iff {R : α → β → Prop} {g : α → Option β} (hg : ∀ x y, R x y ↔ g x = some y) :
    Kept R xs ys ↔ xs.filterMap g = ys := by
  constructor
  · intro h
    induction h with
    | nil => rfl
    | keep h _ ih => rw [List.filterMap_cons_some ((hg _ _).1 h), ih]
    | @drop x _ _ h _ ih =>
      have hnone : g x = none := Option.eq_none_iff_forall_ne_some.2 fun y hy => h y ((hg x y).2 hy)
      rw [List.filterMap_cons_none hnone, ih]
  · rintro rfl
    induction xs with
    | nil => exact .nil
    | cons x xs ih =>
      cases hx : g x with
      | none =>
        rw [List.filterMap_cons_none hx]
        exact .drop (fun y hy => by simp [(hg x y).1 hy] at hx) ih
      | some y =>
        rw [List.filterMap_cons_some hx]
        exact .keep ((hg x y).2 hx) ih

end VpnDirectory
