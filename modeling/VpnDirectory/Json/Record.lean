import VpnDirectory.Json.Reader

/-!
# Records in JSON documents

A record has named fields, all of which may be missing. In a document it is an object, or an array
of its fields in order.

* `readRecord` reads a record from tokens. The document is read from left to right and the first
  fault decides; a field may not be written twice; what the record does not know is skipped.
* `Json.fields` looks the fields of a record up in a value that has been read already.
-/

namespace VpnDirectory.Json

/-- Reads something from tokens, containers being nested at most so many levels, and gives what
follows it. -/
abbrev Reader (α : Type) := (depth : Nat) → List Token → Except ReadError (α × List Token)

namespace Reader

/-- A value of another shape than the expected one; a token that starts no value is a fault in the
form of the document. -/
def refuse {α : Type} (expected : String) (t : Token) : Except ReadError α :=
  match t.shape? with
  | some found => .error (.shape (.wrongType found expected))
  | none => .error .malformed

/-- A value of any shape. -/
def value : Reader Json := fun depth ts => readValue (.used depth) ts

/-- A text. -/
def text : Reader String
  | _, .text (some s) :: ts => .ok (s, ts)
  | _, t :: _ => refuse "a string" t
  | _, [] => .error .malformed

/-- A truth value. -/
def bool : Reader Bool
  | _, .bool b :: ts => .ok (b, ts)
  | _, t :: _ => refuse "a boolean" t
  | _, [] => .error .malformed

/-- Null, or what `r` reads. -/
def optional {α : Type} (r : Reader α) : Reader (Option α)
  | _, .null :: ts => .ok (none, ts)
  | depth, ts => do
    let (a, ts) ← r depth ts
    .ok (some a, ts)

/-- The texts of an array that has been opened. -/
def textItems : List Token → Except ReadError (List String × List Token)
  | .text (some s) :: .closeBracket :: ts => .ok ([s], ts)
  | .text (some s) :: .comma :: ts => do
    let (rest, ts) ← textItems ts
    .ok (s :: rest, ts)
  | .text (some _) :: _ => .error .malformed
  | t :: _ => refuse "a string" t
  | [] => .error .malformed

/-- An array of texts. -/
def texts : Reader (List String)
  | depth, .openBracket :: ts =>
    if depth = 0 then .error .malformed
    else match ts with
      | .closeBracket :: ts => .ok ([], ts)
      | ts => textItems ts
  | _, t :: _ => refuse "a sequence" t
  | _, [] => .error .malformed

end Reader

/-! ### Records in a text -/

/-- A field of a record that is read into a value of type `σ`. -/
structure Field (σ : Type) where
  name : String
  read : σ → Reader σ

/-- A field that is read by `r` and stored by `store`. -/
def Field.of {σ α : Type} (name : String) (r : Reader α) (store : σ → α → σ) : Field σ where
  name
  read s depth ts := do
    let (a, ts) ← r depth ts
    .ok (store s a, ts)

section

variable {σ : Type} (known : List (Field σ)) (depth : Nat)

/-- Reads the members of an object that has been opened, from a key on. Each member takes a unit of
`fuel`; `seen` are the known fields read so far. -/
def readMembers : (fuel : Nat) → (seen : List String) → σ → List Token →
    Except ReadError (σ × List Token)
  | fuel + 1, seen, s, .text (some key) :: ts => do
    let found := known.find? (·.name == key)
    if found.isSome && seen.contains key then
      throw (.shape (.duplicateField key))
    let (s, ts) ← match ts with
      | .colon :: ts =>
        match found with
        | some f => f.read s depth ts
        | none => do
          let (_, ts) ← readValue .skipped ts
          .ok (s, ts)
      | _ => throw .malformed
    match ts with
    | .comma :: ts => readMembers fuel (key :: seen) s ts
    | .closeBrace :: ts => .ok (s, ts)
    | _ => throw .malformed
  | _, _, _, _ => .error .malformed

/-- Reads the items of an array that has been opened as the given fields; `first` until one has
been read. -/
def readElements : List (Field σ) → (first : Bool) → σ → List Token →
    Except ReadError (σ × List Token)
  | _, _, s, .closeBracket :: ts => .ok (s, ts)
  | f :: fs, true, s, ts => do
    let (s, ts) ← f.read s depth ts
    readElements fs false s ts
  | f :: fs, false, s, .comma :: ts => do
    let (s, ts) ← f.read s depth ts
    readElements fs false s ts
  | _, _, _, _ => .error .malformed

/-- Reads a record; fields that are missing stay as they are in `initial`. The record itself is a
level of nesting. -/
def readRecord (expected : String) (initial : σ) : Reader σ
  | depth + 1, .openBrace :: ts =>
    match ts with
    | .closeBrace :: ts => .ok (initial, ts)
    | ts => readMembers known depth ts.length [] initial ts
  | depth + 1, .openBracket :: ts => readElements depth known true initial ts
  | 0, .openBrace :: _ => .error .malformed
  | 0, .openBracket :: _ => .error .malformed
  | _, t :: _ => Reader.refuse expected t
  | _, [] => .error .malformed

/-- Reads a document that is a record. -/
def parseRecord (expected : String) (initial : σ) (s : String) : Except ReadError σ := do
  atEnd (← readRecord known expected initial maxDepth (Token.scan s.toList))

end

/-! ### Records in a value -/

/-- The fields of a record in a value that is an object or an array. -/
def fields (names : List String) (expected : String) (v : Json) :
    Except ShapeError (String → Option Json) :=
  match v with
  | object ms => .ok fun name => Members.get? ms name
  | array xs => .ok fun name => xs[names.idxOf name]?
  | v => .error (.wrongType v.shape expected)

/-- An array may not have more items than the record has fields. -/
def checkLength (names : List String) (v : Json) : Except ShapeError Unit :=
  match v with
  | array xs => if xs.length ≤ names.length then .ok () else .error (.tooLong xs.length)
  | _ => .ok ()

/-- The fields of a record whose fields may hold anything. -/
def record (names : List String) (expected : String) (v : Json) :
    Except ShapeError (String → Option Json) := do
  let get ← v.fields names expected
  v.checkLength names
  .ok get

end VpnDirectory.Json
