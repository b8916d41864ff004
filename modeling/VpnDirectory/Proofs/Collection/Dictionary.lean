import VpnDirectory.Collection.Dictionary

/-!
# Dictionaries by what is found in them

* `Dictionary.get?_foldl_insert` : of several values that are set for a key the last one is found.
* `Dictionary.ext_iff_get?` : dictionaries in which the same is found are equal.
-/

namespace VpnDirectory.Dictionary

variable {α : Type}

/-- Of several values that are set for a key the last one is found. -/
theorem get?_foldl_insert (es : List (String × α)) (d : Dictionary α) (key : String) :
    (es.foldl (fun d e => d.insert e.1 e.2) d).get? key =
      (es.reverse.lookup key).or (d.get? key) := by
  induction es generalizing d with
  | nil => rfl
  | cons e es ih =>
    rw [List.foldl_cons, ih, get?_insert, List.reverse_cons, List.lookup_append, Option.or_assoc,
      lookup_cons]
    split <;> rfl

/-- A key before all keys of a list is not found in it. -/
theorem lookup_eq_none_of_precedes {key : String} {es : List (String × α)}
    (h : ∀ e ∈ es, Text.precedes key.toList e.1.toList) : es.lookup key = none := by
  induction es with
  | nil => rfl
  | cons e es ih =>
    obtain ⟨k, v⟩ := e
    have hne : key ≠ k := by
      rintro rfl
      have hself := h (key, v) List.mem_cons_self
      rw [Text.precedes_irrefl] at hself
      cases hself
    rw [lookup_cons, if_neg hne]
    exact ih fun e he => h e (List.mem_cons_of_mem _ he)

/-- Of two lists with increasing keys in which the same is found, the first key of one does not
stand before all keys of the other. -/
theorem not_precedes_of_lookup_eq {k l : String} {v w : α} {xs ys : List (String × α)}
    (hy : ∀ e ∈ ys, Text.precedes l.toList e.1.toList)
    (h : ∀ key, ((k, v) :: xs).lookup key = ((l, w) :: ys).lookup key) :
    ¬ Text.precedes k.toList l.toList := by
  intro hkl
  have hnone : ((l, w) :: ys).lookup k = none :=
    lookup_eq_none_of_precedes (List.forall_mem_cons.2
      ⟨hkl, fun e he => Text.precedes_trans hkl (hy e he)⟩)
  rw [← h k, lookup_cons, if_pos rfl] at hnone
  cases hnone

theorem eq_of_lookup_eq {xs ys : List (String × α)}
    (hx : xs.Pairwise fun a b => Text.precedes a.1.toList b.1.toList)
    (hy : ys.Pairwise fun a b => Text.precedes a.1.toList b.1.toList)
    (h : ∀ key, xs.lookup key = ys.lookup key) : xs = ys := by
  induction xs generalizing ys with
  | nil =>
    cases ys with
    | nil => rfl
    | cons e ys =>
      obtain ⟨l, w⟩ := e
      simpa [lookup_cons] using h l
  | cons d xs ih =>
    obtain ⟨k, v⟩ := d
    cases ys with
    | nil => simpa [lookup_cons] using h k
    | cons e ys =>
      obtain ⟨l, w⟩ := e
      rw [List.pairwise_cons] at hx hy
      -- neither of the first keys stands before the other
      have hkl : k = l := by
        have hlt := not_precedes_of_lookup_eq hy.1 h
        have hgt := not_precedes_of_lookup_eq hx.1 fun key => (h key).symm
        rcases Text.precedes_or_eq_or_precedes k.toList l.toList with hcase | hcase | hcase
        · exact absurd hcase hlt
        · exact String.toList_inj.1 hcase
        · exact absurd hcase hgt
      subst hkl
      have hvw : v = w := by simpa [lookup_cons] using h k
      have hrest : ∀ key, xs.lookup key = ys.lookup key := by
        intro key
        by_cases hkey : key = k
        · rw [hkey, lookup_eq_none_of_precedes hx.1, lookup_eq_none_of_precedes hy.1]
        · simpa [lookup_cons, hkey] using h key
      rw [hvw, ih hx.2 hy.2 hrest]

/-- Dictionaries in which the same is found are equal. -/
theorem ext_iff_get? {a b : Dictionary α} : a = b ↔ ∀ key, a.get? key = b.get? key := by
  constructor
  · rintro rfl key
    rfl
  · intro h
    exact ext (eq_of_lookup_eq a.sorted b.sorted h)

end VpnDirectory.Dictionary
