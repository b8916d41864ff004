import Mathlib.Data.List.Basic

/-!
# Sorting by a key

Elements are sorted by their keys, and those with the same key stay in their order.

* `pairwise_mergeSort_key` : the keys do not decrease.
* `filter_mergeSort_key` : the elements of a key are those of the list, in their order.
* `pairwise_mergeSort_lex` : where two keys are the same, a relation that held of all elements in
  their order holds on.
* `eq_of_pairwise_of_filter` : there is only one such list.
-/

namespace VpnDirectory

variable {α : Type} (key : α → Int) {xs : List α}

/-- Is the key of the first element at most that of the second one? -/
def keyLE (a b : α) : Bool := decide (key a ≤ key b)

theorem keyLE_iff {a b : α} : keyLE key a b ↔ key a ≤ key b := decide_eq_true_iff

theorem keyLE_trans (a b c : α) (hab : keyLE key a b) (hbc : keyLE key b c) : keyLE key a c := by
  rw [keyLE_iff] at hab hbc ⊢
  omega

theorem keyLE_total (a b : α) : keyLE key a b || keyLE key b a := by
  rw [Bool.or_eq_true, keyLE_iff, keyLE_iff]
  omega

theorem pairwise_mergeSort_key (xs : List α) :
    (xs.mergeSort (keyLE key)).Pairwise fun a b => key a ≤ key b :=
  (List.pairwise_mergeSort (keyLE_trans key) (keyLE_total key) xs).imp (keyLE_iff key).1

/-- The elements of a key are those of the list, in their order. -/
theorem filter_mergeSort_key (xs : List α) (k : Int) :
    (xs.mergeSort (keyLE key)).filter (fun a => decide (key a = k)) =
      xs.filter fun a => decide (key a = k) := by
  -- they are sorted already, and a sorted part of a list is not taken apart
  have hsorted : (xs.filter fun a => decide (key a = k)).Pairwise fun a b => keyLE key a b := by
    refine List.pairwise_filter.2 (List.pairwise_of_forall fun a b ha hb => ?_)
    have hkey : key a = key b := (of_decide_eq_true ha).trans (of_decide_eq_true hb).symm
    exact (keyLE_iff key).2 (Int.le_of_eq hkey)
  have hsub := List.sublist_mergeSort (keyLE_trans key) (keyLE_total key) hsorted
    List.filter_sublist
  have hfilter := hsub.filter fun a => decide (key a = k)
  simp only [List.filter_filter, Bool.and_self] at hfilter
  refine (hfilter.eq_of_length ?_).symm
  exact ((List.mergeSort_perm xs _).filter _).length_eq.symm

/-- Where two keys are the same, a relation that held of all elements in their order holds on. -/
theorem pairwise_mergeSort_lex {R : α → α → Prop} (h : xs.Pairwise R) :
    (xs.mergeSort (keyLE key)).Pairwise fun a b => key a < key b ∨ key a = key b ∧ R a b := by
  rw [List.pairwise_iff_getElem]
  intro i j hi hj hij
  have hle := List.pairwise_iff_getElem.1 (pairwise_mergeSort_key key xs) i j hi hj hij
  by_cases hkey : key (xs.mergeSort (keyLE key))[i] = key (xs.mergeSort (keyLE key))[j]
  · right
    have hsame := h.filter fun a => decide (key a = key (xs.mergeSort (keyLE key))[j])
    rw [← filter_mergeSort_key key] at hsame
    have hplaces := List.pairwise_iff_getElem.1 (List.pairwise_filter.1 hsame) i j hi hj hij
    exact ⟨hkey, hplaces (decide_eq_true hkey) (decide_eq_true rfl)⟩
  · left
    omega

section Unique

variable {κ : Type} [DecidableEq κ] {key : α → κ} {R : α → α → Prop} {ys : List α}

theorem mem_iff_of_filter_eq {a : α}
    (h : xs.filter (fun b => key b == key a) = ys.filter fun b => key b == key a) :
    a ∈ xs ↔ a ∈ ys := by
  have hmem : a ∈ xs.filter (fun b => key b == key a) ↔ a ∈ ys.filter fun b => key b == key a := by
    rw [h]
  simpa using hmem

/-- Two sorted lists with the same elements of each key, in the same order, are the same. -/
theorem eq_of_pairwise_of_filter (hkey : ∀ a b, R a b → R b a → key a = key b)
    (hx : xs.Pairwise R) (hy : ys.Pairwise R)
    (h : ∀ a, xs.filter (fun b => key b == key a) = ys.filter fun b => key b == key a) :
    xs = ys := by
  induction xs generalizing ys with
  | nil =>
    refine (List.eq_nil_iff_forall_not_mem.2 fun a ha => ?_).symm
    exact nomatch (mem_iff_of_filter_eq (h a)).2 ha
  | cons x xs ih =>
    cases ys with
    | nil => exact nomatch (mem_iff_of_filter_eq (h x)).1 List.mem_cons_self
    | cons y ys =>
      obtain ⟨hfirst, hxs⟩ := List.pairwise_cons.1 hx
      obtain ⟨hfirst', hys⟩ := List.pairwise_cons.1 hy
      have hsame : key y = key x := by
        by_contra hne
        -- of different keys, each of the two would come before the other
        have hyx : x ∈ ys := (List.mem_cons.1 ((mem_iff_of_filter_eq (h x)).1
          List.mem_cons_self)).resolve_left fun heq => hne (by rw [heq])
        have hxy : y ∈ xs := (List.mem_cons.1 ((mem_iff_of_filter_eq (h y)).2
          List.mem_cons_self)).resolve_left fun heq => hne (by rw [heq])
        exact hne (hkey y x (hfirst' x hyx) (hfirst y hxy))
      have hhead : x = y := by simpa [hsame] using congrArg List.head? (h x)
      subst hhead
      have hrest (a : α) : xs.filter (fun b => key b == key a) =
          ys.filter fun b => key b == key a := by
        have hall := h a
        rw [List.filter_cons, List.filter_cons] at hall
        split at hall
        · exact (List.cons.inj hall).2
        · exact hall
      exact congrArg (x :: ·) (ih hxs hys hrest)

end Unique

end VpnDirectory
