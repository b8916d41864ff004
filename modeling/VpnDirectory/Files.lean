import VpnDirectory.Text.Basic

/-!
# Files

What can be read is a function from paths to contents, `Files`, so that whatever is loaded from
files is a value that depends on them alone. `Files.ofDirectory` follows paths from a directory that
holds nothing but files. `fileName` and `extension` take a path apart.
-/

namespace VpnDirectory

/-- Why a file cannot be read. -/
inductive ReadFailure
  | missing
  | notDirectory
  | isDirectory
  | nameTooLong
  | zeroByte
  /-- A failure that only the system can put into words. -/
  | other (words : String)
  deriving DecidableEq, Repr

/-- The failure in the words of the system. -/
def ReadFailure.message : ReadFailure → String
  | missing => "No such file or directory (os error 2)"
  | notDirectory => "Not a directory (os error 20)"
  | isDirectory => "Is a directory (os error 21)"
  | nameTooLong => "File name too long (os error 36)"
  | zeroByte => "file name contained an unexpected NUL byte"
  | other words => words

/-- What reading a file gives, by path. -/
abbrev Files := String → Except ReadFailure String

/-- The parts of a path, between its slashes. -/
def pathParts (path : String) : List (List Char) := Text.pieces (· = '/') path.toList

/-- A part that stays where it is: an empty one, or a dot. -/
def staysPut (part : List Char) : Bool := part = [] || part = ['.']

namespace Files

/-- The greatest number of bytes that a name may take. -/
def nameLimit : Nat := 255

/-- The number of bytes from which on a path is too long. -/
def pathLimit : Nat := 4096

/-- Follows the parts of a path. The names are those of the directory as long as the path is
`inside` it, and nothing is known by name anywhere else. Only the last part may name a file: one
that even a slash follows would have to be a directory. -/
def follow (contents : String → Option String) (inside : Bool) :
    List (List Char) → Except ReadFailure String
  | [] => .error .isDirectory
  | part :: rest =>
    if staysPut part then follow contents inside rest
    else if part = ['.', '.'] then follow contents false rest
    else
      let name := String.ofList part
      if nameLimit < name.utf8ByteSize then .error .nameTooLong
      else match if inside then contents name else none with
        | none => .error .missing
        | some text => if rest = [] then .ok text else .error .notDirectory

/-- The files of a directory that holds nothing else, by name, as a program reads them that runs in
this directory. -/
def ofDirectory (contents : String → Option String) : Files := fun path =>
  if path = "" then .error .missing
  else if '\x00' ∈ path.toList then .error .zeroByte
  else if pathLimit ≤ path.utf8ByteSize then .error .nameTooLong
  else follow contents (path.toList.head? ≠ some '/') (pathParts path)

end Files

/-- The last part of a path, if it names a file; parts that stay where they are do not count. -/
def fileName (path : String) : List Char :=
  match ((pathParts path).filter (!staysPut ·)).getLast? with
  | none => []
  | some ['.', '.'] => []
  | some name => name

/-- What follows the last dot of a name; a dot that leads the name does not count. -/
def extension (name : List Char) : String :=
  let rest := name.reverse
  let ending := rest.takeWhile (· ≠ '.')
  match rest.dropWhile (· ≠ '.') with
  | [] => ""
  | [_] => ""
  | _ => .ofList ending.reverse

end VpnDirectory
