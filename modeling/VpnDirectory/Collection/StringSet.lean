import VpnDirectory.Text.Order

/-!
# Sets of texts

`StringSet` keeps its texts in increasing order and without repetition, so that two sets with the
same texts are equal.
-/

namespace VpnDirectory

/-- A set of texts. -/
structure StringSet where
  toList : List String
  sorted : toList.Pairwise fun s t => Text.precedes s.toList t.toList
  deriving DecidableEq

namespace StringSet

/-- The set without texts. -/
def empty : StringSet := ⟨[], .nil⟩

instance : Inhabited StringSet := ⟨empty⟩

/-- Puts a text at its place in an increasing list that may hold it already. -/
def insertSorted (s : String) : List String → List String
  | [] => [s]
  | t :: ts =>
    if Text.precedes s.toList t.toList then s :: t :: ts
    else if s = t then t :: ts
    else t :: insertSorted s ts

theorem mem_insertSorted {s u : String} {ts : List String} :
    u ∈ insertSorted s ts ↔ u = s ∨ u ∈ ts := by
  induction ts with
  | nil => simp [insertSorted]
  | cons t ts ih =>
    rw [insertSorted]
    split
    · simp
    · split
      · next h => subst h; simp
      · simp only [List.mem_cons, ih]
        grind

theorem sorted_insertSorted {s : String} {ts : List String}
    (h : ts.Pairwise fun s t => Text.precedes s.toList t.toList) :
    (insertSorted s ts).Pairwise fun s t => Text.precedes s.toList t.toList := by
  induction ts with
  | nil => simp [insertSorted]
  | cons t ts ih =>
    rw [List.pairwise_cons] at h
    rw [insertSorted]
    split
    · next hst =>
      refine List.pairwise_cons.2 ⟨fun u hu => ?_, List.pairwise_cons.2 h⟩
      rcases List.mem_cons.1 hu with rfl | hu
      · exact hst
      · exact Text.precedes_trans hst (h.1 u hu)
    · next hst =>
      split
      · exact List.pairwise_cons.2 h
      · next hne =>
        refine List.pairwise_cons.2 ⟨fun u hu => ?_, ih h.2⟩
        rcases mem_insertSorted.1 hu with rfl | hu
        · have := Text.precedes_or_eq_or_precedes u.toList t.toList
          have hne' : u.toList ≠ t.toList := fun e => hne (String.toList_inj.1 e)
          simpa [hst, hne'] using this
        · exact h.1 u hu

/-- Adds a text. -/
def insert (set : StringSet) (s : String) : StringSet :=
  ⟨insertSorted s set.toList, sorted_insertSorted set.sorted⟩

/-- The set of the texts of a list. -/
def ofList (texts : List String) : StringSet := texts.foldl insert empty

@[ext] theorem ext {a b : StringSet} (h : a.toList = b.toList) : a = b := by
  cases a
  cases b
  simpa using h

@[simp] theorem toList_insert (set : StringSet) (s : String) :
    (set.insert s).toList = insertSorted s set.toList := rfl

theorem mem_toList_ofList {texts : List String} {s : String} :
    s ∈ (ofList texts).toList ↔ s ∈ texts := by
  suffices h : ∀ set : StringSet,
      s ∈ (texts.foldl insert set).toList ↔ s ∈ set.toList ∨ s ∈ texts by
    simpa [ofList, empty] using h empty
  induction texts with
  | nil => simp
  | cons t ts ih =>
    intro set
    simp only [List.foldl_cons, ih, toList_insert, mem_insertSorted, List.mem_cons]
    grind

/-- Increasing lists with the same texts are equal. -/
theorem eq_of_mem_iff {xs ys : List String}
    (hx : xs.Pairwise fun s t => Text.precedes s.toList t.toList)
    (hy : ys.Pairwise fun s t => Text.precedes s.toList t.toList)
    (h : ∀ s, s ∈ xs ↔ s ∈ ys) : xs = ys := by
  have irrefl (s : String) : ¬ Text.precedes s.toList s.toList := by
    simp [Text.precedes_irrefl]
  induction xs generalizing ys with
  | nil =>
    cases ys with
    | nil => rfl
    | cons t ts => exact absurd ((h t).2 (by simp)) (by simp)
  | cons s ss ih =>
    cases ys with
    | nil => exact absurd ((h s).1 (by simp)) (by simp)
    | cons t ts =>
      rw [List.pairwise_cons] at hx hy
      have hst : s = t := by
        rcases List.mem_cons.1 ((h s).1 (by simp)) with hs | hs
        · exact hs
        · rcases List.mem_cons.1 ((h t).2 (by simp)) with ht | ht
          · exact ht.symm
          · exact absurd (Text.precedes_trans (hx.1 t ht) (hy.1 s hs)) (irrefl s)
      subst hst
      have hrest : ∀ u, u ∈ ss ↔ u ∈ ts := by
        intro u
        constructor
        · intro hu
          rcases List.mem_cons.1 ((h u).1 (List.mem_cons_of_mem _ hu)) with rfl | hu'
          · exact absurd (hx.1 u hu) (irrefl u)
          · exact hu'
        · intro hu
          rcases List.mem_cons.1 ((h u).2 (List.mem_cons_of_mem _ hu)) with rfl | hu'
          · exact absurd (hy.1 u hu) (irrefl u)
          · exact hu'
      rw [ih hx.2 hy.2 hrest]

theorem ofList_toList (set : StringSet) : ofList set.toList = set :=
  ext (eq_of_mem_iff (ofList set.toList).sorted set.sorted fun _ => mem_toList_ofList)

end StringSet

end VpnDirectory
