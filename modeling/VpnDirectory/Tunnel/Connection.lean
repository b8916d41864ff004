import VpnDirectory.Net.Port
import VpnDirectory.Transport

/-!
# Connections of a tunnel

A `Connection` is an end point that a tunnel dials, directly or through a proxy of the local
obfuscation client. `Connection.obfuscated` is the one connection of an obfuscated tunnel.
-/

namespace VpnDirectory

/-- A SOCKS proxy on this machine. -/
structure SocksProxy where
  host : String
  port : Port
  deriving DecidableEq, Repr

/-- What the obfuscation client needs to dial a bridge. -/
structure ObfuscationOptions where
  gatewayIp : String
  port : Port
  cert : String
  iatMode : String
  /-- Dial over KCP, which travels in UDP. -/
  usesKcp : Bool
  transport : Transport
  deriving DecidableEq, Repr

/-- An end point that a tunnel dials. -/
structure Connection where
  serverName : String
  serverPort : Port
  usesUdp : Bool
  proxy : Option SocksProxy := none
  deriving DecidableEq, Repr

namespace Dispatcher

/-- Where the local obfuscation client listens. -/
def ip : String := "127.0.0.1"

/-- The port of the obfuscation client. -/
def port : Port := 4430

/-- The port of the obfuscation client that changes ports. -/
def hoppingPort : Port := 8080

end Dispatcher

namespace Connection

/-- The connection to a bridge through the local obfuscation client. -/
def obfuscated (o : ObfuscationOptions) : Connection :=
  let (usesUdp, port) := match o.transport with
    | .obfs4Hop => (true, Dispatcher.hoppingPort)
    | _ => (o.usesKcp, Dispatcher.port)
  { serverName := o.gatewayIp
    serverPort := o.port
    usesUdp
    proxy := some ⟨Dispatcher.ip, port⟩ }

variable (c : Connection)

/-- The name of the protocol in a profile. -/
def protocolName : String := if c.usesUdp then "udp" else "tcp"

/-- The connection in words. -/
def text : String :=
  c.serverName ++ ":" ++ c.serverPort.text ++ "/" ++ c.protocolName ++
    match c.proxy with
    | some proxy => " via socks5://" ++ proxy.host ++ ":" ++ proxy.port.text
    | none => ""

end Connection

end VpnDirectory
