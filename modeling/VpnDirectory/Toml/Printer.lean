import VpnDirectory.Toml.Value

/-!
# Writing TOML documents

A string has four written forms, `Form`, and `Form.choose` takes the plainest one that can hold
it: one without escapes if there is one, and on one line if the string has no line feed.
-/

namespace VpnDirectory.Toml

/-- A control character other than tab and line feed. -/
def isControl (c : Char) : Bool :=
  (c.toNat < 0x20 && c ≠ '\t' && c ≠ '\n') || c.toNat = 0x7F

/-- Upper-case hexadecimal digits, four at least. -/
def hexDigits (n : Nat) : List Char :=
  let digits := (Nat.toDigits 16 n).map Char.toUpper
  List.replicate (4 - digits.length) '0' ++ digits

/-- Does a character stand so many times in a row? -/
def hasRun (mark : Char) (count : Nat) (cs : List Char) : Bool :=
  go 0 cs
where
  /-- `sofar` marks stand right before the rest. -/
  go (sofar : Nat) : List Char → Bool
    | [] => count ≤ sofar
    | c :: cs => count ≤ sofar || go (if c = mark then sofar + 1 else 0) cs

/-- The written forms of a string. -/
inductive Form
  /-- Between quotation marks, with escapes. -/
  | basic
  /-- Between apostrophes. -/
  | literal
  /-- Between three quotation marks, with escapes. -/
  | basicLines
  /-- Between three apostrophes. -/
  | literalLines
  deriving DecidableEq, Repr

/-- The form of a string. -/
def Form.choose (cs : List Char) : Form :=
  let control := cs.any isControl
  let lines := cs.contains '\n'
  let backslash := cs.contains '\\'
  if !control && !backslash && !cs.contains '"' && !lines then basic
  else if !control && !cs.contains '\'' && !lines then literal
  else if !control && !backslash && !hasRun '"' 3 cs then basicLines
  else if !control && !hasRun '\'' 3 cs then literalLines
  else if lines then basicLines
  else basic

/-- One character of a string with escapes, apart from quotation marks and line feeds. -/
def escape? (c : Char) : Option (List Char) :=
  match c with
  | '\x08' => some ['\\', 'b']
  | '\t' => some ['\\', 't']
  | '\x0c' => some ['\\', 'f']
  | '\r' => some ['\\', 'r']
  | '\\' => some ['\\', '\\']
  | c => if isControl c then some ('\\' :: 'u' :: hexDigits c.toNat) else none

/-- The characters between quotation marks. -/
def writeBasic (cs : List Char) : List Char :=
  cs.flatMap fun c => if c = '"' then ['\\', '"'] else (escape? c).getD [c]

/-- The characters between three quotation marks: of quotation marks in a row each third one is
escaped. `marks` of them stand right before the rest. -/
def writeBasicLines (marks : Nat) : List Char → List Char
  | [] => []
  | '"' :: cs =>
    if marks < 2 then '"' :: writeBasicLines (marks + 1) cs
    else '\\' :: '"' :: writeBasicLines 0 cs
  | c :: cs => (escape? c).getD [c] ++ writeBasicLines 0 cs

/-- Three times the same mark, a text, and the marks again; a text with a line feed starts on a
line of its own. -/
def betweenThree (mark : Char) (hasLines : Bool) (body : List Char) : List Char :=
  let marks := [mark, mark, mark]
  marks ++ (if hasLines then '\n' :: body else body) ++ marks

/-- The written form of a string. -/
def writeString (s : String) : List Char :=
  let cs := s.toList
  let lines := cs.contains '\n'
  match Form.choose cs with
  | .basic => '"' :: writeBasic cs ++ ['"']
  | .literal => '\'' :: cs ++ ['\'']
  | .basicLines => betweenThree '"' lines (writeBasicLines 0 cs)
  | .literalLines => betweenThree '\'' lines cs

/-- The written form of a truth value. -/
def writeBool (b : Bool) : List Char := (if b then "true" else "false").toList

/-- An array of strings: on one line if it has one string at most, and with a line for each string
otherwise. -/
def writeStrings : List String → List Char
  | [] => ['[', ']']
  | [s] => '[' :: writeString s ++ [']']
  | ss => '[' :: '\n' ::
      ss.flatMap (fun s => ' ' :: ' ' :: ' ' :: ' ' :: writeString s ++ [',', '\n']) ++ [']']

/-- The line of an assignment. -/
def writeAssignment (key : String) (value : List Char) : List Char :=
  key.toList ++ ' ' :: '=' :: ' ' :: value ++ ['\n']

/-- The line of a header. -/
def writeHeader (key : String) : List Char := '[' :: key.toList ++ [']', '\n']

end VpnDirectory.Toml
