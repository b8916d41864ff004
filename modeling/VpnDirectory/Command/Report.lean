import VpnDirectory.Command.Arguments
import VpnDirectory.Directory.Locations
import VpnDirectory.Preferences.Toml
import VpnDirectory.Text.Basic

/-!
# What the commands say

`Arguments.runIn` answers a command line over the files that can be read, in an arithmetic. The
answer, `Outcome`, is what is written out and the way in which the command ends.
-/

namespace VpnDirectory

/-- How a command ends. -/
inductive Ending
  | success
  | failure (message : String)
  /-- Time zones that are too far apart cannot be compared. -/
  | outOfReach
  deriving DecidableEq, Repr

namespace Ending

/-- What is written to the error output. -/
def errorText : Ending → Option String
  | success => none
  | failure message => some ("Error: " ++ message)
  | outOfReach => some "\ntime zones out of reach"

/-- The exit code. -/
def exitCode : Ending → Nat
  | success => 0
  | failure _ => 1
  | outOfReach => 101

end Ending

/-- What a command writes out, and how it ends. -/
structure Outcome where
  lines : List String := []
  ending : Ending := .success
  deriving DecidableEq, Repr

/-- The outcome with one more line before its lines. -/
def Outcome.after (o : Outcome) (line : String) : Outcome := { o with lines := line :: o.lines }

/-- The outcome of a command that fails with nothing written out. -/
def Outcome.failed (message : String) : Outcome := { ending := .failure message }

/-- The exit code for a command line that does not follow the rules. -/
def usageExitCode : Nat := 2

namespace Report

/-- An integer with its sign. -/
def signed (n : Int) : String := if n < 0 then toString n else "+" ++ toString n

/-- The line of a gateway at a place. -/
def gatewayLine (n : Nat) (g : Gateway) : String :=
  Text.padLeft 2 (toString n) ++ ". " ++ Text.padRight 28 g.host ++ " " ++
    Text.padRight 16 g.address ++ " " ++ Text.padRight 12 g.name ++ " UTC" ++ signed g.timezone ++
    " [" ++ ", ".intercalate (g.transports.map (·.name)) ++ "]"

/-- The line that says that there are no gateways. -/
def noGatewayLine (t : Transport) : String := "No gateway supports " ++ t.name

/-- Writes out the gateways that are selected from a place on, until there is none at a place. -/
def gatewaysFrom (arithmetic : Arithmetic) (d : Directory) (t : Transport) (city : Option String)
    (n : Nat) : Outcome :=
  match h : d.selectForIn arithmetic n t city with
  | .error _ => { ending := .outOfReach }
  | .ok (some g) => (gatewaysFrom arithmetic d t city (n + 1)).after (gatewayLine n g)
  | .ok none => { lines := if n = 0 then [noGatewayLine t] else [] }
termination_by d.countIn arithmetic t city - n
decreasing_by
  have hlt := Directory.lt_countIn_of_selectForIn h
  omega

/-- The line of a location; the preferred city has a mark. -/
def locationLine (l : Location Double) : String :=
  (if l.isSelected then "* " else "  ") ++ Text.padRight 16 l.name ++ " " ++
    Text.padRight 8 l.load.name ++ " load=" ++ .ofList (Layout.places 2 l.averageLoad.toFloat) ++
    " gateways=" ++ toString l.gatewayCount

/-- A location as a value. -/
def locationJson (l : Location Double) : Json :=
  .object [("name", .text l.name), ("average_load", .number (.real l.averageLoad.toFloat)),
    ("number_of_gateways", .number (.whole l.gatewayCount)), ("selected", .bool l.isSelected),
    ("transports", .array (l.transports.map fun t => .text t.name))]

/-- The line of what the obfuscation client is told. -/
def obfuscationLine (o : ObfuscationOptions) : String :=
  "# obfs4 " ++ o.gatewayIp ++ ":" ++ o.port.text ++ " iat-mode=" ++ o.iatMode ++ " kcp=" ++
    toString o.usesKcp

/-- The text of a profile, and its connections as comments. -/
def profileLines (p : Profile) : List String :=
  [p.text, ""] ++ p.connections.map (fun c => "# connection " ++ c.text) ++
    (p.options.map obfuscationLine).toList

/-- What a provider has at all. -/
def capabilityLines (p : Provider) (preferences : Preferences) : List String :=
  ["locations:         " ++ toString p.service.locations.length,
    "pluggable:         " ++ toString (p.offersPluggable preferences.dialsBridges),
    "experimental:      " ++ toString p.offersExperimental]

/-- The profile of a host, which has to lead somewhere. -/
def profileOutcome (d : Directory) (host : String) (t : Transport) : Outcome :=
  match d.gateway? host with
  | none => .failed ("unknown gateway " ++ host)
  | some g =>
    match g.profile? t with
    | none => .failed (host ++ " does not support " ++ t.name)
    | some p => {
        lines := profileLines p
        ending := if p.isUsable then .success
          else .failure ("profile for " ++ host ++ " has no remotes") }

/-- The locations that a command asks for: those with a transport, the least loaded first, or else
those with the preferred transport in order. -/
def locationsFor (arithmetic : Arithmetic) (d : Directory) :
    Option Transport → Except Overflow (List (Location Double))
  | some t => d.sortedLocationsIn arithmetic t
  | none => d.locationsIn arithmetic

/-- Writes out locations, as values or in a line each. -/
def locationLines (asJson : Bool) (locations : List (Location Double)) : List String :=
  if asJson then [(Json.array (locations.map locationJson)).pretty]
  else locations.map locationLine

/-- The answer of a directory to a command. -/
def directoryOutcome (arithmetic : Arithmetic) (d : Directory) : Command → Outcome
  | .gateways transport city =>
    gatewaysFrom arithmetic d (transport.getD d.transport) city 0
  | .locations transport asJson =>
    match locationsFor arithmetic d transport with
    | .error _ => { ending := .outOfReach }
    | .ok locations => { lines := locationLines asJson locations }
  | .profile host t => profileOutcome d host t
  | .capabilities => {}

end Report

namespace Arguments

variable (a : Arguments)

/-- The paths of the files that a command line names. -/
def paths : List String := a.service :: a.secrets :: a.order.toList ++ a.preferences.toList

/-- The preferences of a command line, from a file if it names one. -/
def loadPreferences (files : Files) : Except String Preferences :=
  match a.preferences with
  | none => .ok {}
  | some path => (Preferences.load files path).mapError fun _ =>
      "loading preferences from " ++ path

/-- Answers a command line. Preferences are loaded first; the time zone of the client is `here`
unless the command line gives another one. -/
def runIn (arithmetic : Arithmetic) (files : Files) (here : Int) : Outcome :=
  match a.loadPreferences files with
  | .error e => .failed e
  | .ok preferences =>
    match Provider.load files a.service a.secrets a.order with
    | .error _ => .failed "loading provider documents"
    | .ok provider =>
      if a.command = .capabilities then { lines := Report.capabilityLines provider preferences }
      else
        let d := Directory.build provider preferences (a.timezone.getD here)
        if d.gateways.isEmpty then .failed "provider has no usable gateways"
        else Report.directoryOutcome arithmetic d a.command

/-- Answers a command line with checked arithmetic. -/
def run (files : Files) (here : Int) : Outcome := a.runIn .checked files here

end Arguments

end VpnDirectory
