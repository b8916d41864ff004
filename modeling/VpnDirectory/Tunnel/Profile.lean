import VpnDirectory.Collection.StringSet
import VpnDirectory.Tunnel.Config
import VpnDirectory.Tunnel.Connection

/-!
# Tunnel profiles

A `Profile` is a configuration with its connections and routes told apart from the other
directives. `Config.profile` draws it up for a transport: defaults first, which may stand anywhere
in the text, then connections and routes, and for a pluggable transport the one connection to the
bridge instead of the connections of the text.
-/

namespace VpnDirectory

/-- A route that does not follow the tunnel's own. -/
structure Route where
  network : String
  netmask : String
  gateway : Option String
  deriving DecidableEq, Repr

/-- A profile of a tunnel. -/
structure Profile where
  /-- The location in words. -/
  name : String := ""
  /-- The address of the gateway. -/
  gatewayIp : String := ""
  transport : Transport
  isPluggable : Bool
  connections : List Connection
  routes : List Route
  directives : List Directive
  blocks : Dictionary String
  options : Option ObfuscationOptions
  /-- Apps that do not use the tunnel. -/
  excludedApps : StringSet := .empty
  /-- The text that the profile was drawn up from. -/
  text : String
  deriving DecidableEq

namespace Profile

variable (p : Profile)

/-- A profile without connections leads nowhere. -/
def isUsable : Bool := !p.connections.isEmpty

/-- The first directive of a name. -/
def directive? (name : String) : Option Directive := p.directives.find? (·.name == name)

/-- The body of a block. -/
def block? (tag : String) : Option String := p.blocks.get? tag

end Profile

/-- Reads a port that has to be one. -/
def Port.ofText (s : String) : Except ConfigError Port :=
  match Port.ofText? s with
  | some p => .ok p
  | none => .error (.invalidPort s)

namespace Config

/-- The port of a connection that names none. -/
def defaultPort : Port := 1194

/-- The mask of a route that names none. -/
def hostMask : String := "255.255.255.255"

/-- Does a protocol travel in UDP? All do whose names do not start like that of TCP. -/
def isUdp (protocol : String) : Bool := !"tcp".toList.isPrefixOf protocol.toList

/-- What connections take that do not say otherwise. -/
structure Defaults where
  usesUdp : Bool := true
  port : Port := defaultPort
  deriving DecidableEq, Repr

/-- The defaults after one more directive. -/
def Defaults.update (d : Defaults) (x : Directive) : Except ConfigError Defaults :=
  match x.name, x.args with
  | "proto", protocol :: _ => .ok { d with usesUdp := isUdp protocol }
  | "port", port :: _ => do .ok { d with port := ← Port.ofText port }
  | _, _ => .ok d

/-- The defaults of a configuration; of several directives the last one counts. -/
def defaults (directives : List Directive) : Except ConfigError Defaults :=
  directives.foldlM Defaults.update {}

/-- The connection of a remote. -/
def connection (d : Defaults) (args : List String) : Except ConfigError Connection :=
  match args with
  | [] => .error (.missingArgument "remote")
  | host :: rest => do
    let serverPort ← match rest[0]? with
      | some port => Port.ofText port
      | none => .ok d.port
    let usesUdp := match rest[1]? with
      | some protocol => isUdp protocol
      | none => d.usesUdp
    .ok { serverName := host, serverPort, usesUdp }

/-- The route of a directive. -/
def route (args : List String) : Except ConfigError Route :=
  match args with
  | [] => .error (.missingArgument "route")
  | network :: rest => .ok { network, netmask := rest[0]?.getD hostMask, gateway := rest[1]? }

/-- Directives told apart. -/
structure Parts where
  connections : List Connection := []
  routes : List Route := []
  others : List Directive := []
  deriving DecidableEq, Repr

/-- Tells directives apart; the first fault among them counts. -/
def parts (d : Defaults) : List Directive → Except ConfigError Parts
  | [] => .ok {}
  | x :: xs =>
    if x.name = "remote" then do
      let c ← connection d x.args
      let rest ← parts d xs
      .ok { rest with connections := c :: rest.connections }
    else if x.name = "route" then do
      let r ← route x.args
      let rest ← parts d xs
      .ok { rest with routes := r :: rest.routes }
    else do
      let rest ← parts d xs
      .ok { rest with others := x :: rest.others }

/-- The profile of a configuration for a transport. -/
def profile (c : Config) (options : Option ObfuscationOptions) (t : Transport) :
    Except ConfigError Profile := do
  let p ← parts (← defaults c.directives) c.directives
  let plain : Profile := {
    transport := t
    isPluggable := t.isPluggable
    connections := p.connections
    routes := p.routes
    directives := p.others
    blocks := c.blocks
    options := none
    text := c.text }
  if t.isPluggable then
    match options with
    | none => .error (.missingTransportOptions t)
    | some o => .ok { plain with connections := [.obfuscated o], options := some o }
  else .ok plain

end Config

end VpnDirectory
