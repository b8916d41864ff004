import Mathlib.Data.List.Find
import VpnDirectory.Proofs.Directory.Locations

/-!
# The load of one location

The load of a location is found by a walk through the gateways of its name alone, while lists of
locations come of a walk through all gateways. The second walk does the same to a location as the
first one, whatever gateways of other locations come in between.

* `Directory.filter_addTo` : a gateway that comes in changes the location of its name only.
* `Directory.filter_locationsOf` : the locations of a name are those of its gateways.
* `Directory.find?_sortedLocations` : sorting does not change which location is found under a name.
* `Directory.loadOf_agrees` : the load of a location is that of its entry in either list.
-/

namespace VpnDirectory.Directory

variable {α : Type} {d : Directory} {g : Gateway} {gs : List Gateway}
variable {t : Transport} {name : String}

/-! ### The walk of one name -/

theorem filter_name_of_eq {l : Location α} (h : l.name = name) (ls : List (Location α)) :
    (l :: ls).filter (·.name == name) = l :: ls.filter (·.name == name) := by
  rw [List.filter_cons, if_pos (beq_iff_eq.2 h)]

theorem filter_name_of_ne {l : Location α} (h : l.name ≠ name) (ls : List (Location α)) :
    (l :: ls).filter (·.name == name) = ls.filter (·.name == name) := by
  rw [List.filter_cons, if_neg (mt beq_iff_eq.1 h)]

variable [LoadNumber α]

/-- A gateway that comes in changes the location of its name only. -/
theorem filter_addTo (d : Directory) (g : Gateway) (fullness : α) (name : String)
    (ls : List (Location α)) :
    (d.addTo g fullness ls).filter (·.name == name) =
      if g.name = name then d.addTo g fullness (ls.filter (·.name == name))
      else ls.filter (·.name == name) := by
  induction ls with
  | nil =>
    rw [addTo]
    by_cases hname : g.name = name
    · rw [if_pos hname, filter_name_of_eq hname]
      rfl
    · rw [if_neg hname, filter_name_of_ne hname]
  | cons l ls ih =>
    rw [addTo]
    by_cases hl : l.name = g.name
    · -- the gateway goes to the first location, which keeps its name
      have hkept : (l.add fullness g.transports).name = l.name := rfl
      rw [if_pos hl]
      by_cases hname : g.name = name
      · have hfirst : l.name = name := hl.trans hname
        rw [if_pos hname, filter_name_of_eq (hkept.trans hfirst), filter_name_of_eq hfirst, addTo,
          if_pos hl]
      · have hother : l.name ≠ name := fun h => hname (hl.symm.trans h)
        rw [if_neg hname, filter_name_of_ne (hkept.trans_ne hother), filter_name_of_ne hother]
    · rw [if_neg hl]
      by_cases hfirst : l.name = name
      · have hname : g.name ≠ name := fun h => hl (hfirst.trans h.symm)
        rw [filter_name_of_eq hfirst, filter_name_of_eq hfirst, ih, if_neg hname, if_neg hname]
      · rw [filter_name_of_ne hfirst, filter_name_of_ne hfirst, ih]

/-- The locations of a name are those of its gateways. -/
theorem filter_locationsOf (d : Directory) (name : String) (gs : List Gateway) :
    (d.locationsOf gs : List (Location α)).filter (·.name == name) =
      d.locationsOf (gs.filter (·.name == name)) := by
  -- the induction is on the walk, one more gateway having come in at the end
  induction gs using List.reverseRecOn with
  | nil => rfl
  | append_singleton gs g ih =>
    rw [locationsOf_concat, filter_addTo, ih, List.filter_append]
    by_cases hname : g.name = name
    · have hsingle : [g].filter (·.name == name) = [g] := by simp [hname]
      rw [if_pos hname, hsingle, locationsOf_concat]
    · have hnone : [g].filter (·.name == name) = [] := by simp [hname]
      rw [if_neg hname, hnone, List.append_nil]

/-- The load of a location is that of the location found under its name. -/
theorem loadOf_eq_find? (d : Directory) (name : String) (t : Transport) :
    d.loadOf (α := α) name t = ((d.locationsOf (d.offered t none) : List (Location α)).find?
      (·.name == name)).elim .unknown (·.load) := by
  have hcity : d.offered t (some name) = (d.offered t none).filter (·.name == name) :=
    offered_eq_filter d t (some name)
  rw [loadOf, firstLoad, hcity, ← filter_locationsOf, List.head?_filter]
  cases (d.locationsOf (d.offered t none) : List (Location α)).find? (·.name == name) with
  | none => rfl
  | some l => rfl

/-! ### Sorted locations -/

theorem sortedLocations_perm (d : Directory) (t : Transport) :
    (d.sortedLocations t : List (Location α)).Perm (d.locationsOf (d.offered t none)) :=
  List.mergeSort_perm _ _

theorem nodup_names_locationsOf (d : Directory) (gs : List Gateway) :
    ((d.locationsOf gs : List (Location α)).map (·.name)).Nodup := by
  rw [names_locationsOf]
  exact nodup_eraseDups_names gs

theorem nodup_names_sortedLocations (d : Directory) (t : Transport) :
    ((d.sortedLocations t : List (Location α)).map (·.name)).Nodup :=
  ((d.sortedLocations_perm t).map _).nodup_iff.2 (nodup_names_locationsOf d _)

/-- Sorting does not change which location is found under a name, as there is one at most. -/
theorem find?_sortedLocations (d : Directory) (t : Transport) (name : String) :
    (d.sortedLocations t : List (Location α)).find? (·.name == name) =
      (d.locationsOf (d.offered t none)).find? (·.name == name) := by
  refine List.find?_eq_find?_of_perm (d.sortedLocations_perm t) ?_
  rintro l ⟨hl, hname⟩ l' ⟨hl', hname'⟩
  exact List.inj_on_of_nodup_map (nodup_names_sortedLocations d t) hl hl'
    ((eq_of_beq hname).trans (eq_of_beq hname').symm)

/-- There is a location for every name of a gateway with the transport. -/
theorem exists_sortedLocation_iff :
    (∃ l ∈ (d.sortedLocations t : List (Location α)), l.name = name) ↔
      ∃ g ∈ d.ordered, g.supports t ∧ g.name = name := by
  have hnames : ((d.sortedLocations t : List (Location α)).map (·.name)).Perm
      ((d.offered t none).map (·.name)).eraseDups := by
    rw [← names_locationsOf (α := α) d]
    exact (d.sortedLocations_perm t).map _
  rw [← List.mem_map, hnames.mem_iff, List.mem_eraseDups, List.mem_map]
  simp [offered, fitting, and_assoc]

/-- The locations of one name go by fewer time zones. -/
theorem areLocationsInReach_some (h : d.areLocationsInReach t none) (name : String) :
    d.areLocationsInReach t (some name) := by
  rw [areLocationsInReach, Bool.and_eq_true, List.all_eq_true] at h ⊢
  exact ⟨h.1, fun g hg => h.2 g ((offered_sublist d t (some name)).subset hg)⟩

/-- The load of a location agrees with the lists of locations. Among those with a transport there is
one at most of any name, and one exactly if a gateway with the transport bears the name. The load is
that of the location found under the name, and unknown if there is none; for the preferred transport
it is the load of the location of the name as it is found in the directory. In checked arithmetic
there may be a load without a list of locations, as the list goes by more differences; but if there
is a list, the load is that of the location in it, and likewise for the location that is found. -/
theorem loadOf_agrees (d : Directory) (name : String) (t : Transport) :
    let sorted : List (Location α) := d.sortedLocations t
    (sorted.map (·.name)).Nodup ∧
      ((∃ l ∈ sorted, l.name = name) ↔ ∃ g ∈ d.ordered, g.supports t ∧ g.name = name) ∧
      d.loadOf (α := α) name t =
        (sorted.find? (·.name == name)).elim .unknown (·.load) ∧
      d.loadOf (α := α) name d.transport =
        (d.location? name : Option (Location α)).elim .unknown (·.load) ∧
      ∀ arithmetic : Arithmetic,
        (∀ ls : List (Location α), d.sortedLocationsIn arithmetic t = .ok ls →
          d.loadOfIn (α := α) arithmetic name t =
            .ok ((ls.find? (·.name == name)).elim .unknown (·.load))) ∧
        (∀ l : Option (Location α), d.locationIn? arithmetic name = .ok l →
          d.loadOfIn (α := α) arithmetic name d.transport = .ok (l.elim .unknown (·.load))) ∧
        d.loadOfIn (α := α) arithmetic name t = arithmetic.answer
          (d.areLocationsInReach t (some name)) (d.loadOf (α := α) name t) ∧
        d.sortedLocationsIn arithmetic t =
          arithmetic.answer (d.areLocationsInReach t none) sorted ∧
        d.locationIn? arithmetic name = arithmetic.answer
          (d.areLocationsInReach d.transport none) (d.location? name : Option (Location α)) := by
  intro sorted
  have hload : d.loadOf (α := α) name t =
      (sorted.find? (·.name == name)).elim .unknown (·.load) := by
    have hfound : sorted.find? (·.name == name) = _ := find?_sortedLocations d t name
    rw [hfound]
    exact loadOf_eq_find? d name t
  have hpreferred : d.loadOf (α := α) name d.transport =
      (d.location? name : Option (Location α)).elim .unknown (·.load) :=
    loadOf_eq_find? d name d.transport
  refine ⟨nodup_names_sortedLocations d t, exists_sortedLocation_iff, hload, hpreferred,
    fun arithmetic => ⟨fun ls hls => ?_, fun l hl => ?_, loadOfIn_eq arithmetic d name t,
      sortedLocationsIn_eq arithmetic d t, locationIn?_eq arithmetic d name⟩⟩
  · rw [sortedLocationsIn_eq, Arithmetic.answer_eq_ok_iff] at hls
    obtain ⟨hthrough, rfl⟩ := hls
    rw [loadOfIn_eq, Arithmetic.answer_eq_ok_iff]
    exact ⟨Arithmetic.goesThrough_mono (areLocationsInReach_some · name) hthrough, hload⟩
  · rw [locationIn?_eq, Arithmetic.answer_eq_ok_iff] at hl
    obtain ⟨hthrough, rfl⟩ := hl
    rw [loadOfIn_eq, Arithmetic.answer_eq_ok_iff]
    exact ⟨Arithmetic.goesThrough_mono (areLocationsInReach_some · name) hthrough, hpreferred⟩

end VpnDirectory.Directory
