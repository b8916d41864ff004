import VpnDirectory.Toml.Quoted
import VpnDirectory.Toml.Value

/-!
# Keys in TOML documents

A key has parts with dots between them, each of them bare or quoted. `readPath` reads one.
-/

namespace VpnDirectory.Toml

/-- The characters of a key without quotation marks. -/
def isBare (c : Char) : Bool :=
  isDigit c || ('a' ≤ c && c ≤ 'z') || ('A' ≤ c && c ≤ 'Z') || c = '_' || c = '-'

/-- A key without dots. -/
def readSimpleKey : Reader String
  | '"' :: cs => (readBasic cs).map fun r => (.ofList r.1, r.2)
  | '\'' :: cs => (readLiteral cs).map fun r => (.ofList r.1, r.2)
  | cs =>
    match cs.span isBare with
    | ([], _) => none
    | (key, rest) => some (.ofList key, rest)

/-- The parts of a key with dots, blanks being allowed around each. -/
def readKeyParts (cs : List Char) : Option (List String × List Char) :=
  match readSimpleKey (skipBlanks cs) with
  | none => none
  | some (key, rest) =>
    match skipBlanks rest with
    | '.' :: more =>
      if more.length < cs.length then
        (readKeyParts more).map fun r => (key :: r.1, r.2)
      else none
    | rest => some ([key], rest)
termination_by cs.length

/-- Keys have fewer parts, and arrays and tables inside braces fewer levels, than this. -/
def maxDepth : Nat := 80

/-- A key with dots. -/
def readPath : Reader Path := fun cs => do
  let (parts, rest) ← readKeyParts cs
  if parts.length < maxDepth then
    some (⟨parts.dropLast, parts.getLastD ""⟩, rest)
  else none

end VpnDirectory.Toml
