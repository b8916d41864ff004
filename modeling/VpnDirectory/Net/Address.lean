import VpnDirectory.Number.Numeral

/-!
# Address texts

Which texts are addresses of the internet protocol:

* version 4, `isIPv4`: four numbers up to 255 with dots between them and no zero in front;
* version 6, `isIPv6`: eight groups of up to four hexadecimal digits with colons between them. Two
  colons stand for one or more groups of zeros, at one place at most, and the last two groups may
  be written as an address of version 4.

Nothing may stand before or after an address: no blank, bracket, zone or port.
-/

namespace VpnDirectory.Address

/-- Removes one given character. -/
def skip (c : Char) : List Char → Option (List Char)
  | d :: cs => if c = d then some cs else none
  | [] => none

/-! ### Version 4 -/

/-- What follows a number up to 255 that has no zero in front. -/
def readOctet (cs : List Char) : Option (List Char) :=
  let (digits, rest) := cs.span isDigit
  let fits := match digits with
    | [] => false
    | ['0'] => true
    | '0' :: _ => false
    | _ => digits.length ≤ 3 && digitsValue 10 digits ≤ 255
  if fits then some rest else none

/-- What follows an address of version 4. -/
def readIPv4 (cs : List Char) : Option (List Char) := do
  let cs ← skip '.' (← readOctet cs)
  let cs ← skip '.' (← readOctet cs)
  let cs ← skip '.' (← readOctet cs)
  readOctet cs

/-- Is the text an address of version 4? -/
def isIPv4 (s : String) : Bool := readIPv4 s.toList == some []

/-! ### Version 6 -/

/-- What follows a group: one to four hexadecimal digits. -/
def readGroup (cs : List Char) : Option (List Char) :=
  let (digits, rest) := cs.span isHexDigit
  if digits.isEmpty ∨ 4 < digits.length then none else some rest

/-- What groups in a row leave behind. -/
structure Groups where
  /-- How many groups were read; an address of version 4 counts for two. -/
  count : Nat
  /-- Did they end with an address of version 4? -/
  endsInIPv4 : Bool
  rest : List Char
  deriving DecidableEq, Repr

/-- Reads at most `room` groups with colons between them; `first` until one has been read. -/
def readGroups : (room : Nat) → (first : Bool) → List Char → Groups
  | 0, _, cs => ⟨0, false, cs⟩
  | room + 1, first, cs =>
    match if first then some cs else skip ':' cs with
    | none => ⟨0, false, cs⟩
    | some start =>
      match if 0 < room then readIPv4 start else none with
      | some rest => ⟨2, true, rest⟩
      | none =>
        match readGroup start with
        | none => ⟨0, false, cs⟩
        | some rest =>
          let more := readGroups room false rest
          { more with count := more.count + 1 }

/-- What follows an address of version 6. The two colons stand for at least one group. -/
def readIPv6 (cs : List Char) : Option (List Char) :=
  let front := readGroups 8 true cs
  if front.count = 8 then some front.rest
  else if front.endsInIPv4 then none
  else do
    let rest ← skip ':' (← skip ':' front.rest)
    some (readGroups (7 - front.count) true rest).rest

/-- Is the text an address of version 6? -/
def isIPv6 (s : String) : Bool := readIPv6 s.toList == some []

/-- Is the text an address of either version? -/
def isAddress (s : String) : Bool := isIPv4 s || isIPv6 s

end VpnDirectory.Address
