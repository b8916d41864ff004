/-!
# Transports and protocols

How a tunnel is carried:

* `Transport` is the outer form of the connection, plain or obfuscated;
* `Protocol` is what its packets travel in;
* a `Pair` of both is what a gateway offers and what a client can use.

`Transport.all`, `Protocol.all` and `Pair.all` list them in their order.
-/

namespace VpnDirectory

/-- The outer form of a tunnel connection. -/
inductive Transport
  /-- Plain OpenVPN. -/
  | openvpn
  /-- OpenVPN inside obfs4. -/
  | obfs4
  /-- OpenVPN inside obfs4 with changing ports. -/
  | obfs4Hop
  deriving DecidableEq, Repr

namespace Transport

/-- Every transport, in order. -/
def all : List Transport := [openvpn, obfs4, obfs4Hop]

/-- The name in documents. -/
def name : Transport → String
  | openvpn => "openvpn"
  | obfs4 => "obfs4"
  | obfs4Hop => "obfs4-hop"

/-- The transport of a name. -/
def ofName? (s : String) : Option Transport := all.find? (·.name == s)

/-- Does the transport hide that it carries a tunnel? -/
def isPluggable : Transport → Bool
  | openvpn => false
  | _ => true

theorem mem_all (t : Transport) : t ∈ all := by cases t <;> decide

theorem ofName?_name (t : Transport) : ofName? t.name = some t := by cases t <;> decide

theorem name_of_ofName? {s : String} {t : Transport} (h : ofName? s = some t) : t.name = s := by
  simpa using List.find?_some h

end Transport

/-- What the packets of a connection travel in. -/
inductive Protocol
  | udp
  | tcp
  | kcp
  deriving DecidableEq, Repr

namespace Protocol

/-- Every protocol, in order. -/
def all : List Protocol := [udp, tcp, kcp]

/-- The name in documents. -/
def name : Protocol → String
  | udp => "udp"
  | tcp => "tcp"
  | kcp => "kcp"

/-- The protocol of a name. -/
def ofName? (s : String) : Option Protocol := all.find? (·.name == s)

theorem mem_all (p : Protocol) : p ∈ all := by cases p <;> decide

theorem ofName?_name (p : Protocol) : ofName? p.name = some p := by cases p <;> decide

theorem name_of_ofName? {s : String} {p : Protocol} (h : ofName? s = some p) : p.name = s := by
  simpa using List.find?_some h

end Protocol

/-- A transport over a protocol. -/
abbrev Pair := Transport × Protocol

namespace Pair

/-- Every pair, ordered by transport and then by protocol. -/
def all : List Pair := Transport.all.flatMap fun t => Protocol.all.map fun p => (t, p)

/-- The pair in words. -/
def text (pair : Pair) : String := pair.1.name ++ "/" ++ pair.2.name

theorem mem_all (pair : Pair) : pair ∈ all := by
  obtain ⟨t, p⟩ := pair
  simp [all, Transport.mem_all, Protocol.mem_all]

end Pair

end VpnDirectory
