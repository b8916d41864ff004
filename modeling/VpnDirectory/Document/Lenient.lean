import VpnDirectory.Json.Record
import VpnDirectory.Text.Basic

/-!
# Lenient fields

Providers publish numbers as texts, ports as numbers and fields of any other shape. A lenient field
takes what it can from a value and falls back to an empty one; it never makes a document fail.
-/

namespace VpnDirectory.Lenient

/-- A text, or the empty text. -/
def text (v : Option Json) : String := (v.bind Json.text?).getD ""

/-- A truth value, or `false`. -/
def bool (v : Option Json) : Bool :=
  match v with
  | some (.bool b) => b
  | _ => false

/-- A number, or zero. -/
def real (v : Option Json) : Float :=
  match v with
  | some (.number n) => n.toFloat
  | _ => 0

/-- The items of an array, or none. -/
def items (v : Option Json) : List Json := (v.bind Json.items?).getD []

/-- The members of an object, or none. -/
def members (v : Option Json) : Json.Members :=
  match v with
  | some (.object ms) => ms
  | _ => []

/-! ### Whole numbers -/

/-- The whole number that a text stands for: a signed number of 32 bits, or else a double without
its fraction, held between the bounds of 32 bits. -/
def wholeOfText? (s : String) : Option Int :=
  let cs := Text.trim s.toList
  ((wholeNumber? cs).bind Range.int32.check).or
    ((float? cs).map (Binary64.truncate Range.int32.low Range.int32.high))

/-- A whole number of 32 bits that may be written as a number or as a text, or zero. A number
outside the bounds counts as zero, while a text outside them counts as the nearer bound. -/
def whole (v : Option Json) : Int :=
  match v with
  | some (.number n) => (Range.int32.check n.truncate).getD 0
  | some (.text s) => (wholeOfText? s).getD 0
  | _ => 0

/-! ### Texts that may be numbers -/

/-- A text, or the text of a number. -/
def scalar? : Json → Option String
  | .text s => some s
  | .number n => some (String.ofList n.chars)
  | _ => none

/-- A text or the text of a number, if it is one of these. -/
def scalar (v : Option Json) : Option String := v.bind scalar?

/-- Texts and the texts of numbers in an array; other items are dropped. -/
def scalars (v : Option Json) : List String := (items v).filterMap scalar?

/-- Texts in an array; other items are dropped. -/
def texts (v : Option Json) : List String := (items v).filterMap Json.text?

end VpnDirectory.Lenient
