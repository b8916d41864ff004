import VpnDirectory.Number.Range
import VpnDirectory.Proofs.Fallible

/-!
# Computations that may stop

In wrapping arithmetic a computation always gives a value. In checked arithmetic it gives the same
one, provided that all of its differences stay in range; otherwise it gives none. A computation is
described by its value and by what decides whether its differences stay in range,
`Arithmetic.answer`.

* `Arithmetic.subtract_eq` : a difference in these terms.
* `Arithmetic.answer_bind` : one computation after another.
* `Arithmetic.mapM_eq_answer`, `Arithmetic.foldlM_eq_answer` : the same computation for every
  element of a list.
-/

namespace VpnDirectory.Arithmetic

variable {α β : Type} {arithmetic : Arithmetic} {r : Range} {p q : Bool}

/-- Does a computation go through if its differences stay in range, or if they do not? -/
def goesThrough : Arithmetic → Bool → Bool
  | wrapping, _ => true
  | checked, inRange => inRange

/-- What a computation gives, by whether its differences stay in range and by its value. -/
def answer (arithmetic : Arithmetic) (inRange : Bool) (x : α) : Except Overflow α :=
  if arithmetic.goesThrough inRange then .ok x else .error {}

@[simp] theorem goesThrough_wrapping (inRange : Bool) : wrapping.goesThrough inRange = true := rfl

@[simp] theorem goesThrough_checked (inRange : Bool) : checked.goesThrough inRange = inRange := rfl

@[simp] theorem goesThrough_true (arithmetic : Arithmetic) :
    arithmetic.goesThrough true = true := by
  cases arithmetic <;> rfl

/-- If fewer differences have to stay in range, a computation goes through as well. -/
theorem goesThrough_mono (h : p → q) (hp : arithmetic.goesThrough p) :
    arithmetic.goesThrough q := by
  cases arithmetic with
  | wrapping => rfl
  | checked => exact h hp

@[simp] theorem answer_wrapping (inRange : Bool) (x : α) : wrapping.answer inRange x = .ok x := rfl

@[simp] theorem answer_true (arithmetic : Arithmetic) (x : α) :
    arithmetic.answer true x = .ok x := by
  cases arithmetic <;> rfl

@[simp] theorem answer_checked_false (x : α) : checked.answer false x = .error {} := rfl

theorem answer_eq_ok_iff {x y : α} :
    arithmetic.answer p x = .ok y ↔ arithmetic.goesThrough p ∧ x = y := by
  unfold answer
  split <;> simp [*]

theorem subtract_eq (arithmetic : Arithmetic) (r : Range) (x y : Int) :
    arithmetic.subtract r x y = arithmetic.answer (r.contains (x - y)) (r.wrap (x - y)) := by
  cases arithmetic with
  | wrapping => rfl
  | checked =>
    by_cases h : r.contains (x - y)
    · rw [subtract, if_pos h, h, answer_true, Range.wrap_of_contains h]
    · rw [subtract, if_neg h, Bool.eq_false_iff.2 h, answer_checked_false]

/-- Of two computations one after the other, both have to go through. -/
theorem answer_bind {x : α} {y : β} {f : α → Except Overflow β}
    (h : f x = arithmetic.answer q y) :
    (arithmetic.answer p x >>= f) = arithmetic.answer (p && q) y := by
  cases arithmetic with
  | wrapping => exact h
  | checked =>
    cases p with
    | false => rfl
    | true => exact h

/-- A value can be worked on after the computation. -/
theorem answer_bind_ok (p : Bool) (x : α) (f : α → β) :
    (arithmetic.answer p x >>= fun x => .ok (f x)) = arithmetic.answer p (f x) := by
  cases arithmetic with
  | wrapping => rfl
  | checked => cases p <;> rfl

theorem map_answer (p : Bool) (x : α) (f : α → β) :
    (arithmetic.answer p x).map f = arithmetic.answer p (f x) := answer_bind_ok p x f

variable {p : α → Bool}

theorem mapM_eq_answer {f : α → Except Overflow β} {g : α → β} (xs : List α)
    (h : ∀ x ∈ xs, f x = arithmetic.answer (p x) (g x)) :
    xs.mapM f = arithmetic.answer (xs.all p) (xs.map g) := by
  induction xs with
  | nil => exact (answer_true arithmetic []).symm
  | cons x xs ih =>
    have hxs := ih fun y hy => h y (List.mem_cons_of_mem x hy)
    rw [List.mapM_cons, h x List.mem_cons_self, hxs]
    exact answer_bind (answer_bind_ok (xs.all p) (xs.map g) (g x :: ·))

theorem foldlM_eq_answer {f : β → α → Except Overflow β} {g : β → α → β} (xs : List α) (b : β)
    (h : ∀ b, ∀ x ∈ xs, f b x = arithmetic.answer (p x) (g b x)) :
    xs.foldlM f b = arithmetic.answer (xs.all p) (xs.foldl g b) := by
  induction xs generalizing b with
  | nil => exact (answer_true arithmetic b).symm
  | cons x xs ih =>
    rw [List.foldlM_cons, h b x List.mem_cons_self]
    exact answer_bind (ih (g b x) fun c y hy => h c y (List.mem_cons_of_mem x hy))

end VpnDirectory.Arithmetic
