/-!
# TOML documents as values

A document is a table. Where a table may be extended later in the document depends on how it came
about, so `Value.table` carries its `Origin`; a table inside braces, `Value.inline`, is closed once
it is written.

* `Entries.assign` stores the value of a dotted key;
* `Entries.openTable` and `Entries.openElement` go to the table of a header and store the
  assignments below it.

All three give `none` when the document defines something twice.
-/

namespace VpnDirectory.Toml

/-- How a table came about. -/
inductive Origin
  /-- By a header of its own. -/
  | header
  /-- By the header of a table inside it. -/
  | implied
  /-- By a dotted key. -/
  | dotted
  deriving DecidableEq, Repr

/-- A value of a document. -/
inductive Value
  | text (s : String)
  | integer (n : Int)
  | real (x : Float)
  | bool (b : Bool)
  /-- A date, a time or both, as it is written. -/
  | dateTime (s : String)
  | array (items : List Value)
  | inline (entries : List (String × Value))
  | table (origin : Origin) (entries : List (String × Value))
  /-- Tables by headers in double brackets. -/
  | tables (elements : List (List (String × Value)))

/-! ### Views -/

namespace Value

/-- A string. -/
def text? : Value → Option String
  | text s => some s
  | _ => none

/-- A truth value. -/
def bool? : Value → Option Bool
  | bool b => some b
  | _ => none

/-- An array of strings. -/
def texts? : Value → Option (List String)
  | array items => items.mapM text?
  | _ => none

end Value

/-! ### Entries -/

/-- The entries of a table in the order in which they came about. -/
abbrev Entries := List (String × Value)

/-- A key with dots: the way to a table, and the key in it. -/
structure Path where
  parents : List String
  key : String
  deriving DecidableEq, Repr

namespace Entries

/-- The value of a key. -/
def get? (es : Entries) (key : String) : Option Value := es.lookup key

/-- Replaces the value of a key that is there. -/
def replace (es : Entries) (key : String) (v : Value) : Entries :=
  es.map fun (k, w) => if k = key then (k, v) else (k, w)

/-- Stores a value under a key that is not there yet. -/
def add (es : Entries) (key : String) (v : Value) : Option Entries :=
  match es.get? key with
  | none => some (es ++ [(key, v)])
  | some _ => none

/-- Changes the last element of a list. -/
def changeLast (f : Entries → Option Entries) : List Entries → Option (List Entries)
  | [] => none
  | [es] => (f es).map ([·])
  | es :: rest => (changeLast f rest).map (es :: ·)

/-! ### Assignments -/

/-- Goes down the way to a table whose way is dotted and stores a value there. Only tables that
came about without a header of their own are open on the way, and at its end only one that came
about by a dotted key; `here` says whether the way ends in such a table. -/
def assignBelow (key : String) (v : Value) : (parents : List String) → (here : Bool) → Entries →
    Option Entries
  | [], here, es => if here then es.add key v else none
  | p :: ps, _, es =>
    match es.get? p with
    | none => do
      let inner ← assignBelow key v ps true []
      some (es ++ [(p, .table .dotted inner)])
    | some (.table origin inner) =>
      if origin = .header then none
      else do
        let inner ← assignBelow key v ps (origin = .dotted) inner
        some (es.replace p (.table origin inner))
    | some (.tables elements) => do
      let elements ← changeLast (assignBelow key v ps false) elements
      some (es.replace p (.tables elements))
    | some _ => none

/-- Stores the value of a key with dots. -/
def assign (es : Entries) (path : Path) (v : Value) : Option Entries :=
  assignBelow path.key v path.parents true es

/-- Stores several values. -/
def assignAll (es : Entries) (values : List (Path × Value)) : Option Entries :=
  values.foldlM (fun es (path, v) => es.assign path v) es

/-! ### Headers -/

/-- Goes to the table that holds the last key of a header and changes it. Tables on the way come
about if they are not there; of tables in double brackets the last one is meant. -/
def atParents (f : Entries → Option Entries) : (parents : List String) → Entries → Option Entries
  | [], es => f es
  | p :: ps, es =>
    match es.get? p with
    | none => do
      let inner ← atParents f ps []
      some (es ++ [(p, .table .implied inner)])
    | some (.table origin inner) => do
      let inner ← atParents f ps inner
      some (es.replace p (.table origin inner))
    | some (.tables elements) => do
      let elements ← changeLast (atParents f ps) elements
      some (es.replace p (.tables elements))
    | some _ => none

/-- A table by a header, with the assignments below the header. A table has one header at most. -/
def openTable (es : Entries) (path : Path) (values : List (Path × Value)) : Option Entries :=
  es.atParents (fun parent =>
    match parent.get? path.key with
    | none => do
      let inner ← assignAll [] values
      some (parent ++ [(path.key, .table .header inner)])
    | some (.table .implied inner) => do
      let inner ← assignAll inner values
      some (parent.replace path.key (.table .header inner))
    | some _ => none) path.parents

/-- One more table by a header in double brackets, with the assignments below it. -/
def openElement (es : Entries) (path : Path) (values : List (Path × Value)) : Option Entries :=
  es.atParents (fun parent => do
    let inner ← assignAll [] values
    match parent.get? path.key with
    | none => some (parent ++ [(path.key, .tables [inner])])
    | some (.tables elements) => some (parent.replace path.key (.tables (elements ++ [inner])))
    | some _ => none) path.parents

end Entries

end VpnDirectory.Toml
