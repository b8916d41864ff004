import VpnDirectory.Toml.Date
import VpnDirectory.Toml.Key
import VpnDirectory.Toml.Number
import VpnDirectory.Toml.Quoted

/-!
# Reading TOML documents

A document is a sequence of statements on lines of their own, `Statement`, and every header starts
a section of the assignments below it. `Toml.parse` reads the statements and builds the table that
they define, or gives `none` if the document has a fault in its form or defines something twice.

Arrays and tables inside braces are read by the same reader as other values, with one level of
nesting less left to them.
-/

namespace VpnDirectory.Toml

/-! ### Values without parts -/

/-- A truth value. -/
def readBool : Reader Value
  | 't' :: 'r' :: 'u' :: 'e' :: cs => some (.bool true, cs)
  | 'f' :: 'a' :: 'l' :: 's' :: 'e' :: cs => some (.bool false, cs)
  | _ => none

/-- A value without parts. -/
def readScalar : Reader Value := fun cs =>
  match cs with
  | '"' :: _ => (readString cs).map fun r => (.text r.1, r.2)
  | '\'' :: _ => (readString cs).map fun r => (.text r.1, r.2)
  | _ =>
    (readBool cs).or <| (readDateTime cs).or <| (readFinite cs).or <| (readInteger cs).or <|
      readNamed cs

/-! ### Values with parts -/

/-- Items with commas between them up to a closing bracket; blanks, line ends and comments may
stand anywhere, and a comma after the last item. -/
def readItems (item : Reader Value) (cs : List Char) : Option (List Value × List Char) :=
  match skipSpace cs with
  | ']' :: rest => some ([], rest)
  | start =>
    match item start with
    | none => none
    | some (v, rest) =>
      match skipSpace rest with
      | ']' :: rest => some ([v], rest)
      | ',' :: rest =>
        if rest.length < cs.length then
          (readItems item rest).map fun r => (v :: r.1, r.2)
        else none
      | _ => none
termination_by cs.length

/-- An assignment: a key, an equals sign and a value. -/
def readAssignment (value : Reader Value) : Reader (Path × Value) := fun cs => do
  let (path, rest) ← readPath cs
  match rest with
  | '=' :: rest => do
    let (v, rest) ← value (skipBlanks rest)
    some ((path, v), rest)
  | _ => none

/-- Assignments with commas between them up to a closing brace, all on one line. -/
def readAssignments (value : Reader Value) (cs : List Char) :
    Option (List (Path × Value) × List Char) :=
  match readAssignment value cs with
  | none => none
  | some (a, rest) =>
    match skipBlanks rest with
    | '\x7d' :: rest => some ([a], rest)
    | ',' :: rest =>
      if rest.length < cs.length then
        (readAssignments value rest).map fun r => (a :: r.1, r.2)
      else none
    | _ => none
termination_by cs.length

/-- A value that nests fewer levels than `levels`. -/
def readValue : (levels : Nat) → Reader Value
  | 0, cs => readScalar cs
  | levels + 1, '[' :: cs =>
    if levels = 0 then none
    else (readItems (readValue levels) cs).map fun r => (.array r.1, r.2)
  | levels + 1, '\x7b' :: cs =>
    if levels = 0 then none
    else match skipBlanks cs with
      | '\x7d' :: rest => some (.inline [], rest)
      | _ => do
        let (values, rest) ← readAssignments (readValue levels) cs
        let entries ← Entries.assignAll [] values
        some (.inline entries, rest)
  | _ + 1, cs => readScalar cs

/-! ### Statements -/

/-- A line of a document that says something. -/
inductive Statement
  | assign (path : Path) (v : Value)
  /-- The header of a table. -/
  | table (path : Path)
  /-- The header of one more of the tables of a key. -/
  | element (path : Path)

/-- The statement at the start of a text without its line end. -/
def readStatement : Reader Statement
  | '[' :: '[' :: cs => do
    let (path, rest) ← readPath cs
    match rest with
    | ']' :: ']' :: rest => some (.element path, rest)
    | _ => none
  | '[' :: cs => do
    let (path, rest) ← readPath cs
    match rest with
    | ']' :: rest => some (.table path, rest)
    | _ => none
  | cs => (readAssignment (readValue maxDepth) cs).map fun r => (.assign r.1.1 r.1.2, r.2)

/-- The statements of a document. -/
def readStatements (cs : List Char) : Option (List Statement) :=
  match skipComment (skipBlanks cs) with
  | [] => some []
  | c :: rest =>
    match skipNewline? (c :: rest) with
    | some rest => if rest.length < cs.length then readStatements rest else none
    | none =>
      match readStatement (c :: rest) with
      | none => none
      | some (statement, rest) =>
        match endLine rest with
        | none => none
        | some rest =>
          if rest.length < cs.length then (readStatements rest).map (statement :: ·) else none
termination_by cs.length

/-! ### Documents -/

/-- Where assignments go: into the document itself, or into the table of a header. -/
inductive Target
  | root
  | table (path : Path)
  | element (path : Path)

/-- A target and the assignments that go there. -/
structure Section where
  target : Target
  values : List (Path × Value)

/-- The sections of a document whose first one has the given target. -/
def sections (target : Target) : List Statement → List Section
  | [] => [⟨target, []⟩]
  | .table path :: rest => ⟨target, []⟩ :: sections (.table path) rest
  | .element path :: rest => ⟨target, []⟩ :: sections (.element path) rest
  | .assign path v :: rest =>
    match sections target rest with
    | [] => []
    | s :: ss => { s with values := (path, v) :: s.values } :: ss

/-- Stores the assignments of a section. -/
def Section.store (entries : Entries) (s : Section) : Option Entries :=
  match s.target with
  | .root => entries.assignAll s.values
  | .table path => entries.openTable path s.values
  | .element path => entries.openElement path s.values

/-- The table that the statements define. -/
def build (statements : List Statement) : Option Entries :=
  (sections .root statements).foldlM Section.store []

/-- Reads a document. A byte order mark may stand in front. -/
def parse (s : String) : Option Entries :=
  let cs := match s.toList with
    | '\ufeff' :: cs => cs
    | cs => cs
  (readStatements cs).bind build

end VpnDirectory.Toml
