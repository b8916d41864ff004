import VpnDirectory.Number.Numeral
import VpnDirectory.Toml.Space

/-!
# Strings in TOML documents

The four forms of strings have a reader each: `readBasic`, `readLiteral`, and for strings between
three marks `readBasicLines` and `readLiteralLines`. `readString` reads any of them.
-/

namespace VpnDirectory.Toml

/-- The character of a code point; surrogates and what is too large have none. -/
def scalar? (n : Nat) : Option Char :=
  if n.isValidChar then some (Char.ofNat n) else none

/-- The character of an escape with hexadecimal digits. -/
def unicodeEscape? (digits : List Char) : Option Char :=
  if digits.all isHexDigit then scalar? (digitsValue 16 digits) else none

/-- The character that a letter after a backslash stands for. -/
def shortEscape? : Char → Option Char
  | 'b' => some '\x08'
  | 't' => some '\t'
  | 'n' => some '\n'
  | 'f' => some '\x0c'
  | 'r' => some '\r'
  | '"' => some '"'
  | '\\' => some '\\'
  | _ => none

/-- The rest of a string after its opening quotation mark. -/
def readBasic : Reader (List Char)
  | '"' :: cs => some ([], cs)
  | '\\' :: 'u' :: a :: b :: c :: d :: cs => do
    let x ← unicodeEscape? [a, b, c, d]
    let (xs, rest) ← readBasic cs
    some (x :: xs, rest)
  | '\\' :: 'U' :: a :: b :: c :: d :: e :: f :: g :: h :: cs => do
    let x ← unicodeEscape? [a, b, c, d, e, f, g, h]
    let (xs, rest) ← readBasic cs
    some (x :: xs, rest)
  | '\\' :: c :: cs => do
    let x ← shortEscape? c
    let (xs, rest) ← readBasic cs
    some (x :: xs, rest)
  | c :: cs =>
    if isPlain c && c ≠ '\\' then do
      let (xs, rest) ← readBasic cs
      some (c :: xs, rest)
    else none
  | [] => none

/-- The rest of a string after its opening apostrophe. -/
def readLiteral : Reader (List Char)
  | '\'' :: cs => some ([], cs)
  | c :: cs =>
    if isPlain c then do
      let (xs, rest) ← readLiteral cs
      some (c :: xs, rest)
    else none
  | [] => none

/-- Marks in a row at the end of a string between three marks: the last three close it, and up to
two before them belong to it. -/
def closing? (mark : Char) : Reader (List Char)
  | a :: b :: c :: d :: e :: cs =>
    if a = mark ∧ b = mark ∧ c = mark then
      if d = mark then
        if e = mark then some ([mark, mark], cs) else some ([mark], e :: cs)
      else some ([], d :: e :: cs)
    else none
  | [a, b, c, d] =>
    if a = mark ∧ b = mark ∧ c = mark then
      if d = mark then some ([mark], []) else some ([], [d])
    else none
  | [a, b, c] => if a = mark ∧ b = mark ∧ c = mark then some ([], []) else none
  | _ => none

/-- The rest of a string after three quotation marks. A backslash at the end of a line drops the
line end and the blanks around it; a line end counts as a line feed. `skipping` is set while such
blanks are dropped. -/
def readBasicLines (skipping : Bool) : Reader (List Char)
  | [] => none
  | c :: cs =>
    if skipping && (isBlank c || c = '\n') then readBasicLines true cs
    else match closing? '"' (c :: cs) with
      | some found => some found
      | none =>
        match c, cs with
        | '\r', '\n' :: rest =>
          if skipping then readBasicLines true rest
          else do
            let (xs, rest) ← readBasicLines false rest
            some ('\n' :: xs, rest)
        | '\n', rest => do
          let (xs, rest) ← readBasicLines false rest
          some ('\n' :: xs, rest)
        | '\\', 'u' :: a :: b :: c :: d :: rest => do
          let x ← unicodeEscape? [a, b, c, d]
          let (xs, rest) ← readBasicLines false rest
          some (x :: xs, rest)
        | '\\', 'U' :: a :: b :: c :: d :: e :: f :: g :: h :: rest => do
          let x ← unicodeEscape? [a, b, c, d, e, f, g, h]
          let (xs, rest) ← readBasicLines false rest
          some (x :: xs, rest)
        | '\\', d :: rest =>
          match shortEscape? d with
          | some x => do
            let (xs, rest) ← readBasicLines false rest
            some (x :: xs, rest)
          | none =>
            if (skipNewline? (skipBlanks (d :: rest))).isSome then readBasicLines true (d :: rest)
            else none
        | c, rest =>
          if isPlain c && c ≠ '\\' then do
            let (xs, rest) ← readBasicLines false rest
            some (c :: xs, rest)
          else none

/-- The rest of a string after three apostrophes. A line end counts as a line feed. -/
def readLiteralLines : Reader (List Char)
  | [] => none
  | c :: cs =>
    match closing? '\'' (c :: cs) with
    | some found => some found
    | none =>
      match c, cs with
      | '\r', '\n' :: rest => do
        let (xs, rest) ← readLiteralLines rest
        some ('\n' :: xs, rest)
      | c, rest =>
        if isPlain c || c = '\n' then do
          let (xs, rest) ← readLiteralLines rest
          some (c :: xs, rest)
        else none

/-- A string of any form. -/
def readString : Reader String
  | '"' :: '"' :: '"' :: cs =>
    (readBasicLines false (skipNewline cs)).map fun r => (.ofList r.1, r.2)
  | '\'' :: '\'' :: '\'' :: cs =>
    (readLiteralLines (skipNewline cs)).map fun r => (.ofList r.1, r.2)
  | '"' :: cs => (readBasic cs).map fun r => (.ofList r.1, r.2)
  | '\'' :: cs => (readLiteral cs).map fun r => (.ofList r.1, r.2)
  | _ => none

end VpnDirectory.Toml
