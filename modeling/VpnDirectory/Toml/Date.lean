import VpnDirectory.Number.Numeral
import VpnDirectory.Toml.Space
import VpnDirectory.Toml.Value

/-!
# Dates and times in TOML documents

`readDateTime` reads a date of the calendar, a time of day, or both with an optional offset from
universal time. What it reads is kept as it is written.
-/

namespace VpnDirectory.Toml

/-- A number of exactly `count` digits between two bounds. -/
def readField (count low high : Nat) : Reader Nat := fun cs =>
  let digits := cs.take count
  let n := digitsValue 10 digits
  if digits.length = count ∧ digits.all isDigit ∧ low ≤ n ∧ n ≤ high then some (n, cs.drop count)
  else none

/-- What follows one of the given characters. -/
def skipOne (allowed : List Char) : List Char → Option (List Char)
  | c :: cs => if allowed.contains c then some cs else none
  | [] => none

/-- The days of a month. -/
def daysIn (year month : Nat) : Nat :=
  if month = 2 then
    if year % 4 = 0 ∧ (year % 100 ≠ 0 ∨ year % 400 = 0) then 29 else 28
  else if month = 4 ∨ month = 6 ∨ month = 9 ∨ month = 11 then 30
  else 31

/-- What follows a date of the calendar. -/
def skipDate (cs : List Char) : Option (List Char) := do
  let (year, cs) ← readField 4 0 9999 cs
  let (month, cs) ← readField 2 1 12 (← skipOne ['-'] cs)
  let (_, cs) ← readField 2 1 (daysIn year month) (← skipOne ['-'] cs)
  some cs

/-- What follows a time of day; the sixtieth second is a leap second. -/
def skipTime (cs : List Char) : Option (List Char) := do
  let (_, cs) ← readField 2 0 23 cs
  let (_, cs) ← readField 2 0 59 (← skipOne [':'] cs)
  let (_, cs) ← readField 2 0 60 (← skipOne [':'] cs)
  match cs with
  | '.' :: rest =>
    match rest.span isDigit with
    | ([], _) => none
    | (_, rest) => some rest
  | cs => some cs

/-- What follows an offset from universal time, if there is one. -/
def skipOffset (cs : List Char) : Option (List Char) :=
  match cs with
  | 'Z' :: rest => some rest
  | 'z' :: rest => some rest
  | '+' :: rest => hours rest
  | '-' :: rest => hours rest
  | cs => some cs
where
  /-- Hours and minutes. -/
  hours (cs : List Char) : Option (List Char) := do
    let (_, cs) ← readField 2 0 23 cs
    let (_, cs) ← readField 2 0 59 (← skipOne [':'] cs)
    some cs

/-- What follows a date, a time or both. -/
def skipDateTime (cs : List Char) : Option (List Char) :=
  match skipDate cs with
  | none => skipTime cs
  | some rest =>
    match (skipOne ['T', 't', ' '] rest).bind skipTime with
    | none => some rest
    | some rest => skipOffset rest

/-- A date, a time or both. -/
def readDateTime : Reader Value := fun cs => do
  let rest ← skipDateTime cs
  some (.dateTime (.ofList (cs.take (cs.length - rest.length))), rest)

end VpnDirectory.Toml
