import VpnDirectory.Json.Printer
import VpnDirectory.Json.Token

/-!
# What can be wrong with a JSON document

A document is either no JSON text at all, `ReadError.malformed`, or a JSON text of a shape that
is not the expected one, `ShapeError`. `ShapeError.message` has the wording.
-/

namespace VpnDirectory.Json

/-- What a value shows of itself in a message. -/
inductive Shape
  | null
  | bool (b : Bool)
  | number (n : Number)
  | text (s : String)
  | sequence
  | map

namespace Shape

/-- The shape in words. -/
def describe : Shape → String
  | null => "null"
  | bool b => "boolean \x60" ++ (if b then "true" else "false") ++ "\x60"
  | number (.whole n) => "integer \x60" ++ String.ofList (Number.whole n).chars ++ "\x60"
  | number (.real x) => "floating point \x60" ++ String.ofList (Number.real x).chars ++ "\x60"
  | text s => "string " ++ String.ofList (Text.quoted s.toList)
  | sequence => "sequence"
  | map => "map"

end Shape

/-- The shape of a value. -/
def shape : Json → Shape
  | null => .null
  | bool b => .bool b
  | number n => .number n
  | text s => .text s
  | array _ => .sequence
  | object _ => .map

/-- The shape of the value that a token starts, if it starts one. -/
def Token.shape? : Token → Option Shape
  | null => some .null
  | bool b => some (.bool b)
  | number n => n.map .number
  | text s => s.map .text
  | openBracket => some .sequence
  | openBrace => some .map
  | _ => none

/-- A JSON text of the wrong shape. -/
inductive ShapeError
  | wrongType (found : Shape) (expected : String)
  | missingField (name : String)
  | duplicateField (name : String)
  | tooShort (length : Nat) (expected : String)
  | tooLong (length : Nat)

/-- The wording of a shape error. -/
def ShapeError.message : ShapeError → String
  | wrongType found expected => "invalid type: " ++ found.describe ++ ", expected " ++ expected
  | missingField name => "missing field \x60" ++ name ++ "\x60"
  | duplicateField name => "duplicate field \x60" ++ name ++ "\x60"
  | tooShort length expected =>
    "invalid length " ++ toString length ++ ", expected " ++ expected
  | tooLong length =>
    "invalid length " ++ toString length ++ ", expected fewer elements in array"

/-- Why a document cannot be read. -/
inductive ReadError
  | malformed
  | shape (e : ShapeError)

end VpnDirectory.Json
