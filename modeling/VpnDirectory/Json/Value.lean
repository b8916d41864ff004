import VpnDirectory.Collection.Dictionary
import VpnDirectory.Number.Range
import VpnDirectory.Number.Scaling

/-!
# JSON values

`Json` is a value of RFC 8259. Members of an object are kept in the order in which they are first
written; `Members.insert` gives a key that is written again its last value at its first place.

A number is kept as a whole number if it is written as one and fits 64 bits, and otherwise as the
double that scaling its digits gives.
-/

namespace VpnDirectory

/-- A number of a document. -/
inductive Number
  | whole (n : Int)
  | real (x : Float)

namespace Number

/-- Whole numbers without a sign are kept up to 64 bits. -/
def unsigned64 : Range := ⟨0, pow2 64 - 1⟩

/-- The number that a numeral stands for; `none` if it is larger than every double. Minus zero is
a double. -/
def ofNumeral? (n : Numeral) : Option Number :=
  let m : Int := n.coefficient
  if n.isWhole ∧ !n.negative ∧ unsigned64.contains m then some (.whole m)
  else if n.isWhole ∧ n.negative ∧ 0 < m ∧ Range.int64.contains (-m) then some (.whole (-m))
  else n.scaled?.map .real

/-- The number as a double. -/
def toFloat : Number → Float
  | .whole n => Float.ofInt n
  | .real x => x

/-- The number without its fraction, or the nearest number of 64 bits. -/
def truncate : Number → Int
  | .whole n => n
  | .real x => Binary64.truncate Range.int64.low Range.int64.high x

end Number

/-- A value of RFC 8259. -/
inductive Json
  | null
  | bool (b : Bool)
  | number (n : Number)
  | text (s : String)
  | array (items : List Json)
  | object (members : List (String × Json))

namespace Json

/-- The members of an object. -/
abbrev Members := List (String × Json)

/-- Sets the value of a key, at its place if it has one and at the end otherwise. -/
def Members.insert : Members → String → Json → Members
  | [], key, v => [(key, v)]
  | (k, w) :: ms, key, v =>
    if k = key then (k, v) :: ms else (k, w) :: Members.insert ms key v

/-- The value of a key. -/
def Members.get? (ms : Members) (key : String) : Option Json := ms.lookup key

/-! ### Views -/

/-- The value of a key of an object; a value that is no object has none. -/
def member? (v : Json) (key : String) : Option Json :=
  match v with
  | object ms => Members.get? ms key
  | _ => none

/-- Is the value an object? -/
def isObject : Json → Bool
  | object _ => true
  | _ => false

/-- The items of an array. -/
def items? : Json → Option (List Json)
  | array xs => some xs
  | _ => none

/-- The text of a string. -/
def text? : Json → Option String
  | text s => some s
  | _ => none

theorem Members.get?_cons (k key : String) (v : Json) (ms : Members) :
    Members.get? ((k, v) :: ms) key = if key = k then some v else ms.get? key :=
  lookup_cons k key v ms

theorem Members.get?_insert (ms : Members) (key other : String) (v : Json) :
    (ms.insert key v).get? other = if other = key then some v else ms.get? other := by
  induction ms with
  | nil => exact Members.get?_cons key other v []
  | cons m ms ih =>
    obtain ⟨k, w⟩ := m
    by_cases hk : k = key
    · simp only [Members.insert, hk, if_true, Members.get?_cons]
      by_cases ho : other = key <;> simp [ho]
    · simp only [Members.insert, hk, if_false, Members.get?_cons, ih]
      by_cases ho : other = k
      · simp [ho, hk]
      · simp [ho]

end Json

end VpnDirectory
