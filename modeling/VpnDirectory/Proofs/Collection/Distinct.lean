/-!
# First elements of a key

`keepFirst key xs` keeps of all elements with the same key the first one, in order.

* `keepFirst.filter_key` : a filter by key can come before or after.
* `keepFirst.map_key` : the keys that are left are those of the list without repetitions.
* `keepFirst.find?_key` : what is found first under a key is kept.
* `keepFirst.append_cons` : an element whose key an earlier one has makes no difference.
* `keepFirst.concat`, `keepFirst.append_filterMap` : one more element at the end is kept if its key
  is new, and so is the image of one more element if there is one.
* `keepFirst.of_nodup` : of a list without repeated keys everything is kept.
* `keepFirst.of_map` : elements can be changed before or after.
-/

namespace VpnDirectory

/-- Drops the elements whose key an earlier element has. -/
def keepFirst {α : Type} (key : α → String) : List α → List α
  | [] => []
  | x :: xs => x :: (keepFirst key xs).filter fun y => key y != key x

namespace keepFirst

variable {α : Type} {key : α → String} {xs : List α}

theorem sublist : (keepFirst key xs).Sublist xs := by
  induction xs with
  | nil => exact .slnil
  | cons x xs ih => exact .cons_cons x (List.filter_sublist.trans ih)

theorem pairwise_ne : (keepFirst key xs).Pairwise fun x y => key x ≠ key y := by
  induction xs with
  | nil => exact .nil
  | cons x xs ih =>
    refine List.pairwise_cons.2 ⟨fun y hy => ?_, ih.sublist List.filter_sublist⟩
    have := (List.mem_filter.1 hy).2
    simp only [bne_iff_ne, ne_eq] at this
    exact fun h => this h.symm

theorem mem_keys {k : String} : k ∈ (keepFirst key xs).map key ↔ k ∈ xs.map key := by
  induction xs with
  | nil => simp [keepFirst]
  | cons x xs ih =>
    simp only [keepFirst, List.map_cons, List.mem_cons, List.mem_map, List.mem_filter,
      bne_iff_ne, ne_eq] at ih ⊢
    by_cases hk : k = key x
    · simp [hk]
    · simp only [hk, false_or, ← ih]
      constructor
      · rintro ⟨y, ⟨hy, _⟩, rfl⟩
        exact ⟨y, hy, rfl⟩
      · rintro ⟨y, hy, rfl⟩
        exact ⟨y, ⟨hy, hk⟩, rfl⟩

/-- A filter by key can come before or after. -/
theorem filter_key (p : String → Bool) (xs : List α) :
    (keepFirst key xs).filter (fun x => p (key x)) =
      keepFirst key (xs.filter fun x => p (key x)) := by
  induction xs with
  | nil => rfl
  | cons x xs ih =>
    rw [keepFirst, List.filter_cons, List.filter_cons, List.filter_filter]
    split
    · rw [keepFirst, ← ih, List.filter_filter]
      simp only [Bool.and_comm]
    · next hx =>
      rw [← ih]
      refine List.filter_congr fun y _ => ?_
      cases hy : p (key y) with
      | false => rfl
      | true =>
        -- the filter tells the keys of `x` and `y` apart
        have hne : key y ≠ key x := by
          intro heq
          exact hx (by rw [← heq, hy])
        simpa using hne

/-- The keys that are left are those of the list without repetitions. -/
theorem map_key : ∀ xs : List α, (keepFirst key xs).map key = (xs.map key).eraseDups
  | [] => rfl
  | x :: xs => by
    rw [keepFirst, List.map_cons, List.map_cons, List.eraseDups_cons,
      filter_key fun k => k != key x, map_key, List.filter_map]
    rfl
termination_by xs => xs.length
decreasing_by exact Nat.lt_succ_of_le (List.length_filter_le _ _)

/-- What is found first under a key is kept. -/
theorem find?_key (k : String) (xs : List α) :
    (keepFirst key xs).find? (key · == k) = xs.find? (key · == k) := by
  induction xs with
  | nil => rfl
  | cons x xs ih =>
    rw [keepFirst, List.find?_cons, List.find?_cons]
    split
    · rfl
    · next hx =>
      -- the elements that are dropped have another key
      have hne : k ≠ key x := by
        rintro rfl
        simp at hx
      rw [List.find?_filter, ← ih]
      congr 1
      funext y
      by_cases hy : key y = k
      · simp [hy, hne]
      · simp [hy]

/-- An element whose key an earlier one has makes no difference. -/
theorem append_cons {e : α} {xs ys : List α} (h : key e ∈ xs.map key) :
    keepFirst key (xs ++ e :: ys) = keepFirst key (xs ++ ys) := by
  induction xs with
  | nil => cases h
  | cons x xs ih =>
    rw [List.cons_append, List.cons_append, keepFirst, keepFirst]
    rcases List.mem_cons.1 h with heq | h
    · have hdrop : (key e != key x) = false := by simpa using heq
      rw [filter_key fun k => k != key x, filter_key fun k => k != key x]
      simp [List.filter_append, hdrop]
    · rw [ih h]

/-- One more element at the end is kept if its key is new. -/
theorem concat (xs : List α) (x : α) :
    keepFirst key (xs ++ [x]) =
      keepFirst key xs ++ if key x ∈ xs.map key then [] else [x] := by
  split
  · next h => rw [append_cons h, List.append_nil, List.append_nil]
  · next h =>
    induction xs with
    | nil => rfl
    | cons y ys ih =>
      rw [List.map_cons, List.mem_cons, not_or] at h
      rw [List.cons_append, keepFirst, keepFirst, ih h.2, List.filter_append, List.cons_append,
        List.filter_cons_of_pos (by simpa using h.1), List.filter_nil]

/-- The image of one more element at the end is kept if there is one and its key is new. -/
theorem append_filterMap {β : Type} (f : β → Option α) (ys : List β) (y : β) :
    keepFirst key ((ys ++ [y]).filterMap f) = keepFirst key (ys.filterMap f) ++
      ((f y).filter fun x => key x ∉ (ys.filterMap f).map key).toList := by
  rw [List.filterMap_append]
  cases hy : f y with
  | none => simp [hy]
  | some x =>
    rw [List.filterMap_cons_some hy, List.filterMap_nil, concat, Option.filter_some]
    by_cases hmem : key x ∈ (ys.filterMap f).map key
    · rw [if_pos hmem, if_neg (by rwa [decide_eq_true_iff, Decidable.not_not]), Option.toList_none]
    · rw [if_neg hmem, if_pos (decide_eq_true hmem), Option.toList_some]

/-- Of a list without repeated keys everything is kept. -/
theorem of_nodup {xs : List α} (h : (xs.map key).Nodup) : keepFirst key xs = xs := by
  induction xs with
  | nil => rfl
  | cons x xs ih =>
    rw [List.map_cons, List.nodup_cons] at h
    rw [keepFirst, ih h.2, List.filter_eq_self.2]
    intro y hy
    have hne : key y ≠ key x := fun heq => h.1 (heq ▸ List.mem_map_of_mem hy)
    simpa using hne

/-- Elements can be changed before or after, by their keys as they are changed. -/
theorem of_map {β : Type} (f : β → α) (xs : List β) :
    keepFirst key (xs.map f) = (keepFirst (fun x => key (f x)) xs).map f := by
  induction xs with
  | nil => rfl
  | cons x xs ih =>
    rw [List.map_cons, keepFirst, keepFirst, ih, List.map_cons, List.filter_map]
    rfl

end keepFirst

end VpnDirectory
