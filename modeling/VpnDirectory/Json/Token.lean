import VpnDirectory.Json.Value

/-!
# Tokens of a JSON text

`Token.scan` cuts a text into tokens. A text that cannot be cut further ends in the token `bad`,
so that a reader meets the fault exactly where it stands and what was read before it counts.

Two tokens may have no value and still be well formed: a number larger than every double, and a
text with half of a surrogate pair. Both matter only where the value is used.
-/

namespace VpnDirectory.Json

/-- A token of a JSON text. -/
inductive Token
  | openBrace
  | closeBrace
  | openBracket
  | closeBracket
  | colon
  | comma
  | null
  | bool (b : Bool)
  /-- `none` stands for a number larger than every double. -/
  | number (n : Option Number)
  /-- `none` stands for a text with half of a surrogate pair. -/
  | text (s : Option String)
  /-- No token stands here. -/
  | bad

namespace Token

/-- The blanks between tokens. -/
def isBlank (c : Char) : Bool := c = ' ' || c = '\t' || c = '\n' || c = '\r'

/-! ### Texts -/

/-- Four hexadecimal digits as a number. -/
def unit? (a b c d : Char) : Option Nat :=
  if [a, b, c, d].all isHexDigit then some (digitsValue 16 [a, b, c, d]) else none

/-- The first halves of surrogate pairs. -/
def isHighSurrogate (n : Nat) : Bool := 0xD800 ≤ n && n < 0xDC00

/-- The second halves of surrogate pairs. -/
def isLowSurrogate (n : Nat) : Bool := 0xDC00 ≤ n && n < 0xE000

/-- The character of a surrogate pair. -/
def pair (high low : Nat) : Char :=
  Char.ofNat (0x10000 + (high - 0xD800) * 0x400 + (low - 0xDC00))

/-- The character that a letter after a backslash stands for. -/
def shortEscape? : Char → Option Char
  | '"' => some '"'
  | '\\' => some '\\'
  | '/' => some '/'
  | 'b' => some '\x08'
  | 'f' => some '\x0c'
  | 'n' => some '\n'
  | 'r' => some '\r'
  | 't' => some '\t'
  | _ => none

/-- What has been read of a text: its characters, the last one first, or nothing once half of a
surrogate pair stood alone; and a first half that still waits for its second one. -/
structure OpenText where
  chars : Option (List Char) := some []
  half : Option Nat := none

namespace OpenText

/-- The characters; a half that waits is lost. -/
def settled (t : OpenText) : Option (List Char) := if t.half.isSome then none else t.chars

/-- One more character. -/
def add (t : OpenText) (c : Char) : OpenText := ⟨t.settled.map (c :: ·), none⟩

/-- One more code unit of sixteen bits. -/
def addUnit (t : OpenText) (n : Nat) : OpenText :=
  if isLowSurrogate n then
    match t.half with
    | some high => ⟨t.chars.map (pair high n :: ·), none⟩
    | none => ⟨none, none⟩
  else if isHighSurrogate n then ⟨t.settled, some n⟩
  else t.add (Char.ofNat n)

/-- The text, if no half is left. -/
def text? (t : OpenText) : Option String := t.settled.map fun cs => String.ofList cs.reverse

end OpenText

/-- The rest of a text after its opening quotation mark, and what follows its closing one. -/
def readText (t : OpenText) : List Char → Option (Option String × List Char)
  | [] => none
  | '"' :: cs => some (t.text?, cs)
  | '\\' :: 'u' :: a :: b :: c :: d :: cs =>
    match unit? a b c d with
    | some n => readText (t.addUnit n) cs
    | none => none
  | '\\' :: c :: cs =>
    match shortEscape? c with
    | some x => readText (t.add x) cs
    | none => none
  | c :: cs => if c.toNat < 0x20 ∨ c = '\\' then none else readText (t.add c) cs

/-! ### Numbers -/

/-- A numeral of RFC 8259 and what follows it: no plus sign or zero in front, and digits on both
sides of a point. -/
def readNumeral (cs : List Char) : Option (Numeral × List Char) :=
  let (negative, cs) := match cs with
    | '-' :: cs => (true, cs)
    | _ => (false, cs)
  let (whole, cs) := cs.span isDigit
  let (fraction, cs) := Numeral.readFraction cs
  let leadingZero := match whole with
    | '0' :: _ :: _ => true
    | _ => false
  if whole.isEmpty ∨ leadingZero ∨ fraction = some [] then none
  else do
    let (exponent, cs) ← Numeral.readExponent cs
    some ({ negative, whole, fraction, exponent }, cs)

/-! ### The whole text -/

/-- The first token of a text that does not start with a blank, and what follows it. -/
def next : List Char → Token × List Char
  | '\x7b' :: cs => (openBrace, cs)
  | '\x7d' :: cs => (closeBrace, cs)
  | '[' :: cs => (openBracket, cs)
  | ']' :: cs => (closeBracket, cs)
  | ':' :: cs => (colon, cs)
  | ',' :: cs => (comma, cs)
  | 'n' :: 'u' :: 'l' :: 'l' :: cs => (null, cs)
  | 't' :: 'r' :: 'u' :: 'e' :: cs => (bool true, cs)
  | 'f' :: 'a' :: 'l' :: 's' :: 'e' :: cs => (bool false, cs)
  | '"' :: cs =>
    match readText {} cs with
    | some (s, cs) => (text s, cs)
    | none => (bad, [])
  | cs =>
    match readNumeral cs with
    | some (n, cs) => (number (Number.ofNumeral? n), cs)
    | none => (bad, [])

/-- The tokens of a text. -/
def scan (cs : List Char) : List Token :=
  match cs.dropWhile isBlank with
  | [] => []
  | c :: rest =>
    let found := next (c :: rest)
    if found.2.length < cs.length then found.1 :: scan found.2 else [bad]
termination_by cs.length

end Token

end VpnDirectory.Json
