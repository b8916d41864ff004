import VpnDirectory.Json.Record
import VpnDirectory.Proofs.Fallible

/-!
# The fields of a record in a value

* `Json.IsRecord` : which values are records of some fields, and what stands in these.
* `Json.record_eq_ok_iff` : the fields are looked up in such values and in no others.
* `Json.record_eq_error_iff` : what is said of the other values, `Json.NoRecord`.
* `Json.record_array` : an array is the record of an object that has its items under the names.
-/

namespace VpnDirectory.Json

/-- The value is a record of these fields: an object, or an array of as many of them, from the first
one on, as it has items. -/
inductive IsRecord (names : List String) : Json → (String → Option Json) → Prop
  | object (ms : Members) : IsRecord names (.object ms) fun name => ms.get? name
  | array {xs : List Json} (h : xs.length ≤ names.length) :
    IsRecord names (.array xs) fun name => xs[names.idxOf name]?

variable {names : List String} {expected : String} {v : Json} {get : String → Option Json}

theorem record_eq_ok_iff : v.record names expected = .ok get ↔ IsRecord names v get := by
  constructor
  · intro h
    obtain ⟨get', hget, h⟩ := bind_eq_ok_iff.1 h
    obtain ⟨⟨⟩, hlength, h⟩ := bind_eq_ok_iff.1 h
    cases h
    cases v with
    | object ms =>
      cases hget
      exact .object ms
    | array xs =>
      cases hget
      by_cases hle : xs.length ≤ names.length
      · exact .array hle
      · rw [checkLength, if_neg hle] at hlength
        cases hlength
    | _ => cases hget
  · rintro (ms | hle)
    · rfl
    · rw [record, fields, ok_bind, checkLength, if_pos hle]
      rfl

/-- The value is no record of these fields: it is neither an object nor an array, or it is an array
of more items than there are fields. -/
inductive NoRecord (names : List String) (expected : String) : Json → ShapeError → Prop
  | scalar {v : Json} (hobject : ∀ ms, v ≠ .object ms) (harray : ∀ xs, v ≠ .array xs) :
    NoRecord names expected v (.wrongType v.shape expected)
  | long {xs : List Json} (h : names.length < xs.length) :
    NoRecord names expected (.array xs) (.tooLong xs.length)

theorem record_eq_error_iff {e : ShapeError} :
    v.record names expected = .error e ↔ NoRecord names expected v e := by
  cases v with
  | object ms =>
    refine iff_of_false nofun fun h => ?_
    cases h with
    | scalar hobject => exact hobject ms rfl
  | array xs =>
    rw [record, fields, ok_bind, checkLength]
    by_cases hle : xs.length ≤ names.length
    · rw [if_pos hle]
      refine iff_of_false nofun fun h => ?_
      cases h with
      | scalar _ harray => exact harray xs rfl
      | long hlt => exact Nat.not_lt.2 hle hlt
    · rw [if_neg hle]
      constructor
      · intro h
        cases h
        exact .long (Nat.lt_of_not_le hle)
      · intro h
        cases h with
        | scalar _ harray => exact absurd rfl (harray xs)
        | long => rfl
  | null | bool | number | text =>
    constructor
    · intro h
      cases h
      exact .scalar nofun nofun
    · intro h
      cases h
      rfl

/-! ### Arrays -/

theorem get?_zip (names : List String) (xs : List Json) (h : xs.length ≤ names.length)
    (name : String) : Members.get? (names.zip xs) name = xs[names.idxOf name]? := by
  induction names generalizing xs with
  | nil =>
    obtain rfl := List.eq_nil_of_length_eq_zero (Nat.le_zero.1 h)
    rfl
  | cons key names ih =>
    cases xs with
    | nil => rfl
    | cons x xs =>
      rw [List.zip_cons_cons, Members.get?_cons, List.idxOf_cons]
      by_cases hkey : name = key
      · simp [hkey]
      · have hother : (key == name) = false := by simpa using Ne.symm hkey
        rw [if_neg hkey, hother, cond_false, List.getElem?_cons_succ,
          ih xs (Nat.le_of_succ_le_succ h)]

/-- An array is read as the object that has its items under the names, in order. -/
theorem record_array {xs : List Json} (h : xs.length ≤ names.length) :
    (array xs).record names expected = (object (names.zip xs)).record names expected := by
  have hget : (fun name => xs[names.idxOf name]?) =
      fun name => Members.get? (names.zip xs) name :=
    funext fun name => (get?_zip names xs h name).symm
  rw [record_eq_ok_iff.2 (.array h), hget, record_eq_ok_iff.2 (.object _)]

/-- A value is a record of given fields in one way only. -/
theorem IsRecord.unique {get' : String → Option Json} (h : IsRecord names v get)
    (h' : IsRecord names v get') : get = get' := by
  have hrecord : v.record names "" = .ok get := record_eq_ok_iff.2 h
  rw [record_eq_ok_iff.2 h'] at hrecord
  exact (Except.ok.inj hrecord).symm

end VpnDirectory.Json
