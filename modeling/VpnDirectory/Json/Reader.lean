import VpnDirectory.Json.Error

/-!
# Reading JSON values

`readValue` reads one value from tokens. The containers that are part way through stand in a list,
the innermost first, so that every step consumes a token and the recursion is on the tokens.

How deep containers may be nested, and whether tokens without a value are accepted, is said by
`Rules`: a value that is used has to be sound all through and is limited in depth, while a value
that is skipped only has to be well formed.
-/

namespace VpnDirectory.Json

/-- What is asked of a value besides its form. -/
structure Rules where
  /-- The deepest nesting of containers, if there is a limit. -/
  depth : Option Nat
  number : Option Number → Option Number
  text : Option String → Option String

namespace Rules

/-- A value that is used: every number and text has a value, and containers are nested at most
`depth` levels. -/
def used (depth : Nat) : Rules := ⟨some depth, id, id⟩

/-- A value that is skipped: numbers may be too large and surrogates unpaired, and nesting has no
limit. -/
def skipped : Rules := ⟨none, fun n => n.or (some (.whole 0)), fun s => s.or (some "")⟩

/-- May a container be opened inside so many others? -/
def allows (r : Rules) (inside : Nat) : Bool :=
  match r.depth with
  | none => true
  | some depth => inside < depth

end Rules

/-- A container part way through. -/
inductive Frame
  /-- The items so far, the last one first. -/
  | array (done : List Json)
  /-- The members so far, and the key of the one being read. -/
  | object (done : List (String × Json)) (key : String)

variable (rules : Rules)

mutual

/-- Reads a value inside the given containers. -/
def readInside (stack : List Frame) : List Token → Option (Json × List Token)
  | .null :: ts => continueWith null stack ts
  | .bool b :: ts => continueWith (bool b) stack ts
  | .number n :: ts =>
    match rules.number n with
    | some n => continueWith (number n) stack ts
    | none => none
  | .text s :: ts =>
    match rules.text s with
    | some s => continueWith (text s) stack ts
    | none => none
  | .openBracket :: ts =>
    if rules.allows stack.length then
      match ts with
      | .closeBracket :: ts => continueWith (array []) stack ts
      | ts => readInside (.array [] :: stack) ts
    else none
  | .openBrace :: ts =>
    if rules.allows stack.length then
      match ts with
      | .closeBrace :: ts => continueWith (object []) stack ts
      | .text k :: .colon :: ts =>
        match rules.text k with
        | some k => readInside (.object [] k :: stack) ts
        | none => none
      | _ => none
    else none
  | _ => none

/-- Puts a value into the innermost container and goes on reading. -/
def continueWith (v : Json) : List Frame → List Token → Option (Json × List Token)
  | [], ts => some (v, ts)
  | .array done :: stack, .comma :: ts => readInside (.array (v :: done) :: stack) ts
  | .array done :: stack, .closeBracket :: ts =>
    continueWith (array (v :: done).reverse) stack ts
  | .object done key :: stack, .comma :: .text k :: .colon :: ts =>
    match rules.text k with
    | some k => readInside (.object (Members.insert done key v) k :: stack) ts
    | none => none
  | .object done key :: stack, .closeBrace :: ts =>
    continueWith (object (Members.insert done key v)) stack ts
  | _, _ => none

end

/-- Reads one value and gives what follows it. -/
def readValue (ts : List Token) : Except ReadError (Json × List Token) :=
  match readInside rules [] ts with
  | some r => .ok r
  | none => .error .malformed

/-- The nesting that a document may have. -/
def maxDepth : Nat := 127

/-- Nothing may follow the end of a document. -/
def atEnd {α : Type} (r : α × List Token) : Except ReadError α :=
  match r with
  | (a, []) => .ok a
  | _ => .error .malformed

/-- Reads a document of any shape. -/
def parse (s : String) : Except ReadError Json := do
  atEnd (← readValue (.used maxDepth) (Token.scan s.toList))

end VpnDirectory.Json
