/-!
# Between the words of a TOML document

Blanks, line ends and comments. A `Reader` takes something off the front of a text.

* `skipSpace` drops all three;
* `endLine` drops the rest of a line that says nothing more.
-/

namespace VpnDirectory.Toml

/-- Reads something at the start of a text. -/
abbrev Reader (α : Type) := List Char → Option (α × List Char)

/-- Space and tab. -/
def isBlank (c : Char) : Bool := c = ' ' || c = '\t'

/-- Drops blanks. -/
def skipBlanks (cs : List Char) : List Char := cs.dropWhile isBlank

/-- Characters that may stand in a comment or a string: no controls but the tab. -/
def isPlain (c : Char) : Bool := c = '\t' || (0x20 ≤ c.toNat && c.toNat ≠ 0x7F)

/-- What follows a line feed or a carriage return with a line feed. -/
def skipNewline? : List Char → Option (List Char)
  | '\n' :: cs => some cs
  | '\r' :: '\n' :: cs => some cs
  | _ => none

/-- Drops a line end if there is one. -/
def skipNewline (cs : List Char) : List Char := (skipNewline? cs).getD cs

/-- Drops a comment if there is one, but not the line end after it. -/
def skipComment : List Char → List Char
  | '#' :: cs => cs.dropWhile isPlain
  | cs => cs

/-- Drops blanks, line ends and comments. -/
def skipSpace (cs : List Char) : List Char :=
  let rest := skipNewline (skipComment (skipBlanks cs))
  if rest.length < cs.length then skipSpace rest else cs
termination_by cs.length

/-- What follows the rest of a line that holds nothing but blanks and a comment. -/
def endLine (cs : List Char) : Option (List Char) :=
  match skipComment (skipBlanks cs) with
  | [] => some []
  | cs => skipNewline? cs

end VpnDirectory.Toml
