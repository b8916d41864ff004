import Mathlib.Data.List.Forall2
import Mathlib.Logic.Relation
import VpnDirectory.Proofs.Json.Fields

/-!
# Values with parts replaced

A relation says what a part of a value may be replaced by; `Relation.ReflGen` leaves it as it is as
well.

* `Json.ItemsReplaced` : an array with any of its items replaced.
* `Json.FieldsReplaced` : a record with any of its fields replaced, each as the relation of its name
  has it.
* `Json.FieldsReplaced.exists_fields` : what is looked up in the two records is related under each
  name. A function that takes a value for its replacement reads the same from both,
  `Json.eq_of_replaced` and `Json.map_eq_of_replaced`.
-/

namespace VpnDirectory.Json

open Relation (ReflGen)

/-! ### Items -/

/-- The second value is an array with items of the first one replaced. -/
inductive ItemsReplaced (R : Json → Json → Prop) : Json → Json → Prop
  | array {xs ys : List Json} (h : List.Forall₂ (ReflGen R) xs ys) :
    ItemsReplaced R (.array xs) (.array ys)

theorem map_eq_of_replaced {α : Type} {R : Json → Json → Prop} {xs ys : List Json} {f : Json → α}
    (h : List.Forall₂ (ReflGen R) xs ys) (hf : ∀ v w, R v w → f v = f w) :
    xs.map f = ys.map f := by
  induction h with
  | nil => rfl
  | cons hxy _ ih =>
    rw [List.map_cons, List.map_cons, ih]
    cases hxy with
    | refl => rfl
    | single h => rw [hf _ _ h]

/-! ### Fields -/

variable {names : List String} {R : String → Json → Json → Prop} {v w : Json}

/-- The second value is the first one with fields replaced: member by member in an object, and item
by item in an array, whose items are the fields in order; items beyond have the empty name. -/
inductive FieldsReplaced (names : List String) (R : String → Json → Json → Prop) :
    Json → Json → Prop
  | object {ms ms' : Members}
    (h : List.Forall₂ (fun m m' => m.1 = m'.1 ∧ ReflGen (R m.1) m.2 m'.2) ms ms') :
    FieldsReplaced names R (.object ms) (.object ms')
  | array {xs ys : List Json}
    (h : ∀ i, Option.Rel (ReflGen (R (names.getD i ""))) xs[i]? ys[i]?) :
    FieldsReplaced names R (.array xs) (.array ys)

theorem get?_replaced {ms ms' : Members}
    (h : List.Forall₂ (fun m m' => m.1 = m'.1 ∧ ReflGen (R m.1) m.2 m'.2) ms ms') (name : String) :
    Option.Rel (ReflGen (R name)) (ms.get? name) (ms'.get? name) := by
  induction h with
  | nil => exact .none
  | @cons m m' ms ms' hm _ ih =>
    obtain ⟨key, v⟩ := m
    obtain ⟨key', w⟩ := m'
    obtain ⟨rfl, hvw⟩ := hm
    rw [Members.get?_cons, Members.get?_cons]
    by_cases hname : name = key
    · rw [if_pos hname, if_pos hname, hname]
      exact .some hvw
    · rw [if_neg hname, if_neg hname]
      exact ih

/-- A member is looked up in objects alone, be it a field or not. -/
theorem FieldsReplaced.member? (h : FieldsReplaced names R v w) (name : String) :
    Option.Rel (ReflGen (R name)) (v.member? name) (w.member? name) := by
  cases h with
  | object h => exact get?_replaced h name
  | array => exact .none

theorem length_eq_of_rel {α : Type} {S : Nat → α → α → Prop} {xs ys : List α}
    (h : ∀ i, Option.Rel (S i) xs[i]? ys[i]?) : xs.length = ys.length := by
  have hnone : ∀ i, xs[i]? = none ↔ ys[i]? = none := fun i => by
    have hi := h i
    generalize xs[i]? = x, ys[i]? = y at hi ⊢
    cases hi with
    | none => rfl
    | some => exact iff_of_false nofun nofun
  simp only [List.getElem?_eq_none_iff] at hnone
  exact Nat.le_antisymm ((hnone _).2 (Nat.le_refl _)) ((hnone _).1 (Nat.le_refl _))

/-- What is looked up in a record and in another one with fields replaced. -/
theorem FieldsReplaced.exists_fields (h : FieldsReplaced names R v w) :
    ∃ get get' : String → Option Json,
      (∀ expected, v.fields names expected = .ok get) ∧
      (∀ expected, w.fields names expected = .ok get') ∧
      v.checkLength names = w.checkLength names ∧ v.isObject = w.isObject ∧
      ∀ name ∈ names, Option.Rel (ReflGen (R name)) (get name) (get' name) := by
  cases h with
  | object h =>
    exact ⟨_, _, fun _ => rfl, fun _ => rfl, rfl, rfl, fun name _ => get?_replaced h name⟩
  | array h =>
    refine ⟨_, _, fun _ => rfl, fun _ => rfl, ?_, rfl, fun name hname => ?_⟩
    · rw [checkLength, checkLength, length_eq_of_rel h]
    · have hfield := h (names.idxOf name)
      rwa [List.getD_eq_getElem?_getD, List.getElem?_idxOf hname] at hfield

/-- Nothing is read from a field but what its replacements have as well. -/
theorem eq_of_replaced {α : Type} {S : Json → Json → Prop} {field field' : Option Json}
    (h : Option.Rel (ReflGen S) field field') (f : Option Json → α)
    (hf : ∀ v w, S v w → f (some v) = f (some w)) : f field = f field' := by
  cases h with
  | none => rfl
  | some h =>
    cases h with
    | refl => rfl
    | single h => exact hf _ _ h

end VpnDirectory.Json
