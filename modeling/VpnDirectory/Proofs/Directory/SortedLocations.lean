import VpnDirectory.Proofs.Directory.LocationLoad
import VpnDirectory.Proofs.Number.TotalOrder

/-!
# Sorted locations

The locations with a transport are drawn up in the order in which their gateways are selected, and
then sorted by their mean loads. Loads of any value have a place: sorting goes by the bits of a mean
load, in the total order of doubles.

* `Directory.pairwise_sortedLocations` : the mean loads do not decrease.
* `Directory.filter_sortedLocations` : locations with the same mean load stay in their order.
  `Directory.eq_sortedLocations` : no other list is sorted in this way.
* `Directory.exists_sortedLocation_iff_isSome` : there is a location for a name exactly if a gateway
  is selected under it.
* `Directory.sortedLocations_stable` : all of this for every directory and every transport, in any
  arithmetic.
-/

namespace VpnDirectory

variable {α : Type} [LoadNumber α]

/-- The bits of the mean load. -/
def Location.loadBits (l : Location α) : UInt64 := (LoadNumber.toDouble l.averageLoad).bits

namespace Directory

variable {d : Directory} {t : Transport} {name : String}

/-- The gateways with a transport, one after another as they are selected. -/
theorem offered_none (d : Directory) (t : Transport) :
    d.offered t none = d.ordered.filter (·.supports t) := by
  unfold offered fitting
  simp

/-- The mean loads do not decrease in the total order of doubles. -/
theorem pairwise_sortedLocations (d : Directory) (t : Transport) :
    (d.sortedLocations t : List (Location α)).Pairwise fun l l' =>
      Binary64.TotalOrder l.loadBits l'.loadBits := by
  have hsorted := pairwise_mergeSort_key (fun l : Location α => Binary64.orderKey l.loadBits)
    (d.locationsOf (d.offered t none))
  exact hsorted.imp fun h => Binary64.totalLE_iff.1 (decide_eq_true h)

/-- Locations with the same mean load, to the last bit, stay in the order in which they came up. -/
theorem filter_sortedLocations (d : Directory) (t : Transport) (bits : UInt64) :
    (d.sortedLocations t : List (Location α)).filter (·.loadBits == bits) =
      (d.locationsOf (d.offered t none)).filter (·.loadBits == bits) := by
  have hkey (l : Location α) : (l.loadBits == bits) =
      decide (Binary64.orderKey l.loadBits = Binary64.orderKey bits) := by
    rw [Bool.eq_iff_iff, beq_iff_eq, decide_eq_true_iff]
    exact ⟨congrArg Binary64.orderKey, Binary64.eq_of_orderKey_eq⟩
  simp only [hkey]
  exact filter_mergeSort_key (fun l : Location α => Binary64.orderKey l.loadBits) _ _

/-- No other list has the locations in such an order. -/
theorem eq_sortedLocations {ls : List (Location α)}
    (hsorted : ls.Pairwise fun l l' => Binary64.TotalOrder l.loadBits l'.loadBits)
    (hstable : ∀ bits, ls.filter (·.loadBits == bits) =
      (d.locationsOf (d.offered t none)).filter (·.loadBits == bits)) :
    ls = d.sortedLocations t := by
  have hkey (l l' : Location α) (h : Binary64.TotalOrder l.loadBits l'.loadBits)
      (h' : Binary64.TotalOrder l'.loadBits l.loadBits) : l.loadBits = l'.loadBits := h.antisymm h'
  refine eq_of_pairwise_of_filter hkey hsorted (pairwise_sortedLocations d t) fun l => ?_
  rw [filter_sortedLocations]
  exact hstable l.loadBits

/-- There is a location for a name exactly if a gateway is selected under it. -/
theorem exists_sortedLocation_iff_isSome :
    (∃ l ∈ (d.sortedLocations t : List (Location α)), l.name = name) ↔
      (d.selectFor 0 t (some name)).isSome := by
  rw [exists_sortedLocation_iff, selectFor, isSome_getElem?, List.length_pos_iff_exists_mem]
  simp [mem_offered_iff]

/-- Sorting the locations with a transport reorders them stably. They are the locations of the
gateways that are selected for the transport one after another, one for each name in the order in
which the names come up; for the preferred transport these are the locations of the directory. Their
mean loads do not decrease in the total order of doubles, and so not as numbers either where they
are numbers; what is no number stands before the numbers if its sign is minus, and behind them if it
is plus. Those with the same mean load, to the last bit, stay in their order, and there is no other
list of this kind. There is a location for a name exactly if a gateway is selected under it. All of
this is so in wrapping arithmetic; in checked arithmetic the lists are the same, unless they go by
differences that do not fit, and then there are none. -/
theorem sortedLocations_stable (d : Directory) (t : Transport) :
    let sorted : List (Location α) := d.sortedLocations t
    (∃ all : List Gateway, (∀ n, d.selectFor n t none = all[n]?) ∧
      all = d.ordered.filter (·.supports t) ∧
      (d.locationsOf all : List (Location α)) = ((all.map (·.name)).eraseDups.map fun name =>
        d.sumOf name (all.filter (·.name == name))) ∧
      (t = d.transport → (d.locationsOf all : List (Location α)) = d.locations) ∧
      sorted.Perm (d.locationsOf all) ∧
      (sorted.Pairwise fun l l' => Binary64.TotalOrder l.loadBits l'.loadBits) ∧
      (sorted.Pairwise fun l l' =>
        Binary64.partsOf l.loadBits ≠ .nan → Binary64.partsOf l'.loadBits ≠ .nan →
          Binary64.AtMost (Binary64.partsOf l.loadBits) (Binary64.partsOf l'.loadBits)) ∧
      (sorted.Pairwise fun l l' =>
        (Binary64.partsOf l.loadBits = .nan → Binary64.partsOf l'.loadBits ≠ .nan →
          Binary64.IsNegative l.loadBits) ∧
        (Binary64.partsOf l.loadBits ≠ .nan → Binary64.partsOf l'.loadBits = .nan →
          ¬ Binary64.IsNegative l'.loadBits)) ∧
      (∀ bits, sorted.filter (·.loadBits == bits) =
        (d.locationsOf all).filter (·.loadBits == bits)) ∧
      ∀ ls : List (Location α),
        (ls.Pairwise fun l l' => Binary64.TotalOrder l.loadBits l'.loadBits) →
        (∀ bits, ls.filter (·.loadBits == bits) =
          (d.locationsOf all).filter (·.loadBits == bits)) →
        ls = sorted) ∧
      (∀ name, (∃ l ∈ sorted, l.name = name) ↔ (d.selectFor 0 t (some name)).isSome) ∧
      ∀ arithmetic : Arithmetic,
        d.sortedLocationsIn arithmetic t =
          arithmetic.answer (d.areLocationsInReach t none) sorted ∧
        d.locationsIn arithmetic = arithmetic.answer (d.areLocationsInReach d.transport none)
          (d.locations : List (Location α)) ∧
        ∀ n city, d.selectForIn arithmetic n t city =
          arithmetic.answer d.isOrderInReach (d.selectFor n t city) := by
  intro sorted
  have hpairwise : sorted.Pairwise fun l l' => Binary64.TotalOrder l.loadBits l'.loadBits :=
    pairwise_sortedLocations d t
  refine ⟨⟨d.offered t none, fun n => rfl, offered_none d t, locationsOf_eq d _, ?_,
    sortedLocations_perm d t, hpairwise, hpairwise.imp Binary64.atMost_of_totalOrder,
    hpairwise.imp fun h => ⟨?_, ?_⟩, filter_sortedLocations d t, fun ls => eq_sortedLocations⟩,
    fun name => exists_sortedLocation_iff_isSome, fun arithmetic =>
      ⟨sortedLocationsIn_eq arithmetic d t, locationsIn_eq arithmetic d,
        fun n city => selectForIn_eq arithmetic d n t city⟩⟩
  · rintro rfl
    rfl
  · intro hnan hnumber
    exact (Binary64.nan_totalOrder_iff hnumber hnan).1 h
  · intro hnumber hnan
    exact (Binary64.totalOrder_nan_iff hnumber hnan).1 h

end Directory

end VpnDirectory
