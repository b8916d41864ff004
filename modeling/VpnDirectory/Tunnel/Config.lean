import VpnDirectory.Collection.Dictionary
import VpnDirectory.Text.Basic
import VpnDirectory.Tunnel.Error

/-!
# Configuration texts

A configuration text holds directives, one to a line, and inline blocks between tags. A line that
is empty or starts with a mark of a comment says nothing.

* `Statement.read` reads the lines of a text one by one. What was read before a fault is kept, so
  it gives the statements together with the fault, if there is one.
* `Config` is what several texts have said so far; `Config.feed` reads one more of them. A text with
  a fault adds what stands before the fault, but not its own wording.
-/

namespace VpnDirectory

/-- A directive with its arguments. -/
structure Directive where
  name : String
  args : List String
  deriving DecidableEq, Repr

/-- What a line or a block of a configuration says. -/
inductive Statement
  | directive (d : Directive)
  | block (tag body : String)
  deriving DecidableEq, Repr

/-- What a single line may be. -/
inductive Line
  | silent
  | opening (tag : List Char)
  | closing (tag : List Char)
  | directive (d : Directive)
  deriving DecidableEq, Repr

namespace Line

/-- The text between a front part and a closing angle bracket. -/
def tagAfter? (front : List Char) (cs : List Char) : Option (List Char) :=
  if front.isPrefixOf cs then
    let rest := cs.drop front.length
    if rest.getLast? = some '>' then some rest.dropLast else none
  else none

/-- The directive of the words of a line; a line without words says nothing. -/
def ofWords : List (List Char) → Line
  | [] => silent
  | name :: args => directive ⟨.ofList name, args.map .ofList⟩

/-- What a line is, blanks at its ends aside. -/
def ofChars (line : List Char) : Line :=
  let cs := Text.trim line
  if cs.isEmpty || cs.head? = some '#' || cs.head? = some ';' then silent
  else match tagAfter? ['<', '/'] cs with
    | some tag => closing tag
    | none =>
      match tagAfter? ['<'] cs with
      | some tag => opening tag
      | none => ofWords (Text.words cs)

/-- Does the line close a block? -/
def closes (tag line : List Char) : Bool := Text.trim line == '<' :: '/' :: tag ++ ['>']

end Line

/-- A block part way through: its tag and its lines so far, the last one first. -/
structure OpenBlock where
  tag : List Char
  body : List (List Char) := []

namespace Statement

/-- The block with all of its lines. -/
def ofBlock (b : OpenBlock) : Statement :=
  block (.ofList b.tag) (.ofList (Text.unlines b.body.reverse))

/-- Reads lines, the first of which has the given number; `inside` is the block that they stand in,
if there is one. -/
def read : (inside : Option OpenBlock) → (number : Nat) → List (List Char) →
    List Statement × Option ConfigError
  | none, _, [] => ([], none)
  | some b, _, [] => ([], some (.unterminatedBlock (.ofList b.tag)))
  | some b, number, line :: rest =>
    if Line.closes b.tag line then
      let (statements, fault) := read none (number + 1) rest
      (ofBlock b :: statements, fault)
    else read (some { b with body := line :: b.body }) (number + 1) rest
  | none, number, line :: rest =>
    match Line.ofChars line with
    | .silent => read none (number + 1) rest
    | .closing tag => ([], some (.unexpectedClosingTag number (.ofList tag)))
    | .opening tag => read (some { tag }) (number + 1) rest
    | .directive d =>
      let (statements, fault) := read none (number + 1) rest
      (directive d :: statements, fault)

/-- Reads a text. -/
def ofText (text : String) : List Statement × Option ConfigError :=
  read none 1 (Text.lines text.toList)

end Statement

/-- What configuration texts have said so far. -/
structure Config where
  directives : List Directive := []
  /-- Of blocks with the same tag the last one counts. -/
  blocks : Dictionary String := .empty
  /-- The texts that were read without a fault, a line feed between each two. -/
  text : String := ""
  deriving DecidableEq

namespace Config

/-- Adds a statement. -/
def add (c : Config) : Statement → Config
  | .directive d => { c with directives := c.directives ++ [d] }
  | .block tag body => { c with blocks := c.blocks.insert tag body }

/-- One text after another, on a line of its own unless it is the first. -/
def appendText (before text : String) : String :=
  if before = "" then text else before ++ "\n" ++ text

/-- Reads one more text. -/
def feed (c : Config) (text : String) : Config × Except ConfigError Unit :=
  let (statements, fault) := Statement.ofText text
  let c := statements.foldl add c
  match fault with
  | some e => (c, .error e)
  | none => ({ c with text := appendText c.text text }, .ok ())

end Config

end VpnDirectory
