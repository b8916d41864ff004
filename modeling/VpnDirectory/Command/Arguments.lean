import VpnDirectory.Number.Numeral
import VpnDirectory.Number.Range
import VpnDirectory.Transport

/-!
# The arguments of the command line

The command line is a list of options, then the name of a command, then the options of the command.

* `Options.read` reads options: a switch is set by its name, and a value is given behind an equals
  sign or as the next argument. No option may be given twice.
* `Arguments.parse` makes `Arguments` of a command line, or gives `none` if it does not follow the
  rules, something that is required is missing or a value is not of its kind.
-/

namespace VpnDirectory

/-- How an option is written. -/
inductive OptionKind
  /-- A name alone. -/
  | switch
  /-- A name with a value. -/
  | value
  /-- A name with a value that may be a negative number. -/
  | number
  deriving DecidableEq, Repr

/-- An option that is known. -/
structure OptionSpec where
  name : String
  /-- A letter that stands for the name of a switch. -/
  letter : Option Char := none
  kind : OptionKind := .value

/-- The options that are given, with the values of those that have one. -/
abbrev Options := List (String × Option String)

namespace Options

/-- Is the option given? -/
def has (o : Options) (name : String) : Bool := o.any (·.1 == name)

/-- The value of an option. -/
def get? (o : Options) (name : String) : Option String := (o.lookup name).join

/-- Adds an option that is not given yet. -/
def add (o : Options) (name : String) (v : Option String) : Option Options :=
  if o.has name then none else some (o ++ [(name, v)])

/-- A hyphen and digits. -/
def isNegativeNumber (s : String) : Bool :=
  match s.toList with
  | '-' :: c :: cs => (c :: cs).all isDigit
  | _ => false

/-- May an argument be the value of an option that stands before it? -/
def isValue (kind : OptionKind) (s : String) : Bool :=
  match s.toList with
  | '-' :: _ :: _ => kind = .number && isNegativeNumber s
  | _ => true

/-- Sets the switches of the letters behind a hyphen. -/
def addLetters (specs : List OptionSpec) (o : Options) : List Char → Option Options
  | [] => some o
  | c :: cs => do
    let spec ← specs.find? (·.letter == some c)
    addLetters specs (← o.add spec.name none) cs

/-- The part before the first equals sign, and the part behind it if there is one. -/
def splitValue (cs : List Char) : String × Option String :=
  let name := cs.takeWhile (· ≠ '=')
  match cs.dropWhile (· ≠ '=') with
  | [] => (.ofList name, none)
  | _ :: v => (.ofList name, some (.ofList v))

/-- Reads options up to the first argument that is none, and gives the arguments from there on. -/
def read (specs : List OptionSpec) (o : Options) : List String → Option (Options × List String)
  | [] => some (o, [])
  | arg :: rest =>
    match arg.toList with
    | ['-', '-'] => some (o, arg :: rest)
    | '-' :: '-' :: cs =>
      let (name, attached) := splitValue cs
      match specs.find? (·.name == name) with
      | none => none
      | some spec =>
        match attached with
        | some v =>
          if spec.kind = .switch then none
          else (o.add name (some v)).bind fun o => read specs o rest
        | none =>
          if spec.kind = .switch then (o.add name none).bind fun o => read specs o rest
          else match rest with
            | [] => none
            | v :: rest =>
              if isValue spec.kind v then (o.add name (some v)).bind fun o => read specs o rest
              else none
    | '-' :: c :: cs => (addLetters specs o (c :: cs)).bind fun o => read specs o rest
    | _ => some (o, arg :: rest)

end Options

/-! ### Commands -/

/-- What is asked for. -/
inductive Command
  /-- The gateways with a transport, in a city if one is given. -/
  | gateways (transport : Option Transport) (city : Option String)
  /-- The locations, sorted by load if a transport is given. -/
  | locations (transport : Option Transport) (asJson : Bool)
  /-- The profile of a host. -/
  | profile (host : String) (transport : Transport)
  /-- The transports that the provider has at all. -/
  | capabilities
  deriving DecidableEq, Repr

/-- A command line. -/
structure Arguments where
  /-- The path of the service document. -/
  service : String
  /-- The path of the secrets. -/
  secrets : String
  /-- The path of the order of the server. -/
  order : Option String
  /-- The path of the preferences. -/
  preferences : Option String
  timezone : Option Int
  command : Command
  deriving DecidableEq, Repr

namespace Arguments

/-- The options before the command. -/
def commonOptions : List OptionSpec := [
  { name := "eip-service" }, { name := "secrets" }, { name := "geoip" }, { name := "config" },
  { name := "timezone", kind := .number },
  { name := "verbose", letter := some 'v', kind := .switch }]

/-- The options of each command. -/
def commandOptions : String → Option (List OptionSpec)
  | "gateways" => some [{ name := "transport" }, { name := "city" }]
  | "locations" => some [{ name := "transport" }, { name := "json", kind := .switch }]
  | "profile" => some [{ name := "host" }, { name := "transport" }]
  | "capabilities" => some []
  | _ => none

/-- A path, which may not be empty, if it is given. -/
def path? (o : Options) (name : String) : Option (Option String) :=
  match o.get? name with
  | some "" => none
  | v => some v

/-- The value of an option, if it is given, in the form that it has to have. -/
def valueOf? {α : Type} (o : Options) (name : String) (read : String → Option α) :
    Option (Option α) :=
  match o.get? name with
  | none => some none
  | some v => (read v).map some

/-- A time zone in hours. -/
def timezone? (s : String) : Option Int := (wholeNumber? s.toList).bind Range.int32.check

/-- The command of a name with its options. -/
def command? (name : String) (o : Options) : Option Command := do
  let transport ← valueOf? o "transport" Transport.ofName?
  match name with
  | "gateways" => some (.gateways transport (o.get? "city"))
  | "locations" => some (.locations transport (o.has "json"))
  | "profile" => some (.profile (← o.get? "host") (transport.getD .openvpn))
  | "capabilities" => some .capabilities
  | _ => none

/-- Reads a command line. Nothing may follow the options of the command but two hyphens, which end
them. -/
def parse (args : List String) : Option Arguments := do
  let (common, rest) ← Options.read commonOptions [] args
  let name :: rest := rest | none
  let (own, rest) ← Options.read (← commandOptions name) [] rest
  if rest ≠ [] ∧ rest ≠ ["--"] then none
  let service ← (← path? common "eip-service")
  let secrets ← (← path? common "secrets")
  let order ← path? common "geoip"
  let preferences ← path? common "config"
  let timezone ← valueOf? common "timezone" timezone?
  let command ← command? name own
  some { service, secrets, order, preferences, timezone, command }

end Arguments

end VpnDirectory
