import VpnDirectory.Text.Order

/-!
# Dictionaries

`Dictionary` keeps values by key, the keys increasing, so that two dictionaries with the same
entries are equal.
-/

namespace VpnDirectory

section Lookup

variable {α : Type}

theorem lookup_cons (k key : String) (v : α) (es : List (String × α)) :
    ((k, v) :: es).lookup key = if key = k then some v else es.lookup key := by
  rw [List.lookup_cons]
  by_cases h : key = k
  · simp [h]
  · have hk : (key == k) = false := by simpa using h
    simp [h, hk]

end Lookup

/-- Values by key. -/
structure Dictionary (α : Type) where
  entries : List (String × α)
  sorted : entries.Pairwise fun a b => Text.precedes a.1.toList b.1.toList
  deriving DecidableEq

namespace Dictionary

variable {α : Type}

/-- The dictionary without entries. -/
def empty : Dictionary α := ⟨[], .nil⟩

instance : Inhabited (Dictionary α) := ⟨empty⟩

/-- Sets the value of a key in a list of entries with increasing keys. -/
def insertSorted (key : String) (value : α) : List (String × α) → List (String × α)
  | [] => [(key, value)]
  | (k, v) :: es =>
    if Text.precedes key.toList k.toList then (key, value) :: (k, v) :: es
    else if key = k then (key, value) :: es
    else (k, v) :: insertSorted key value es

theorem key_mem_insertSorted {key u : String} {value : α} {es : List (String × α)} :
    u ∈ (insertSorted key value es).map (·.1) ↔ u = key ∨ u ∈ es.map (·.1) := by
  induction es with
  | nil => simp [insertSorted]
  | cons e es ih =>
    obtain ⟨k, v⟩ := e
    rw [insertSorted]
    split
    · simp
    · split
      · next h => subst h; simp
      · simp only [List.map_cons, List.mem_cons, ih]
        grind

theorem sorted_insertSorted {key : String} {value : α} {es : List (String × α)}
    (h : es.Pairwise fun a b => Text.precedes a.1.toList b.1.toList) :
    (insertSorted key value es).Pairwise fun a b => Text.precedes a.1.toList b.1.toList := by
  induction es with
  | nil => simp [insertSorted]
  | cons e es ih =>
    obtain ⟨k, v⟩ := e
    rw [List.pairwise_cons] at h
    rw [insertSorted]
    split
    · next hlt =>
      refine List.pairwise_cons.2 ⟨fun u hu => ?_, List.pairwise_cons.2 h⟩
      rcases List.mem_cons.1 hu with rfl | hu
      · exact hlt
      · exact Text.precedes_trans hlt (h.1 u hu)
    · next hlt =>
      split
      · next heq =>
        subst heq
        exact List.pairwise_cons.2 h
      · next hne =>
        refine List.pairwise_cons.2 ⟨fun u hu => ?_, ih h.2⟩
        rcases key_mem_insertSorted.1 (List.mem_map_of_mem hu) with hkey | hkey
        · have := Text.precedes_or_eq_or_precedes key.toList k.toList
          have hne' : key.toList ≠ k.toList := fun e => hne (String.toList_inj.1 e)
          rw [hkey]
          simpa [hlt, hne'] using this
        · obtain ⟨a, ha, hau⟩ := List.mem_map.1 hkey
          rw [← hau]
          exact h.1 a ha

/-- Sets the value of a key. -/
def insert (d : Dictionary α) (key : String) (value : α) : Dictionary α :=
  ⟨insertSorted key value d.entries, sorted_insertSorted d.sorted⟩

/-- The value of a key. -/
def get? (d : Dictionary α) (key : String) : Option α := d.entries.lookup key

@[ext] theorem ext {a b : Dictionary α} (h : a.entries = b.entries) : a = b := by
  cases a
  cases b
  simpa using h

theorem lookup_insertSorted (es : List (String × α)) (key other : String) (value : α) :
    (insertSorted key value es).lookup other =
      if other = key then some value else es.lookup other := by
  induction es with
  | nil => exact lookup_cons key other value []
  | cons e es ih =>
    obtain ⟨k, v⟩ := e
    rw [insertSorted]
    split
    · exact lookup_cons key other value ((k, v) :: es)
    · split
      · next h =>
        subst h
        rw [lookup_cons, lookup_cons]
        split <;> rfl
      · next hne =>
        rw [lookup_cons, lookup_cons, ih]
        by_cases hk : other = k
        · subst hk
          simp [Ne.symm hne]
        · simp [hk]

/-- Setting the value of a key changes what is found under that key alone. -/
theorem get?_insert (d : Dictionary α) (key other : String) (value : α) :
    (d.insert key value).get? other = if other = key then some value else d.get? other :=
  lookup_insertSorted d.entries key other value

end Dictionary

end VpnDirectory
