import VpnDirectory.Directory.Order
import VpnDirectory.Provider

/-!
# The directory of gateways

A `Directory` holds the gateways that could be built from the documents of a provider, each host
once, and the order in which they are offered to a client:

* the order of a server, if it names a gateway that there is. Hosts that are not known and
  repetitions do not count, and gateways that the server does not name are not offered;
* otherwise the distance between the time zones of client and gateway.

`Directory.build` takes in the entries of the provider one after another, `Directory.takeIn`, and
then the hosts that the server names, `Directory.moveUp`. `Directory.orderedIn` is the list of
gateways in their order; everything that is asked about selection is asked of this list.
-/

namespace VpnDirectory

/-- The gateways of a provider in the order in which they are offered to a client. -/
structure Directory where
  /-- In the order of the documents, each host once. -/
  gateways : List Gateway := []
  /-- The number of every host in the list of gateways. -/
  index : List (String × Nat) := []
  /-- The numbers of the gateways that a server names, in its order. -/
  presorted : List Nat := []
  strategy : Strategy := .clientTimezone
  preferences : Preferences
  /-- Hours that the client is ahead of universal time. -/
  clientTimezone : Int

namespace Directory

/-! ### How a directory comes about -/

/-- Takes in an entry, unless it gives no gateway or its host is there already. -/
def takeIn (provider : Provider) (d : Directory) (entry : Json) : Directory :=
  match Gateway.build provider.service provider.secrets entry d.preferences with
  | .error _ => d
  | .ok g =>
    if (d.index.lookup g.host).isSome then d
    else { d with
      gateways := d.gateways ++ [g]
      index := d.index ++ [(g.host, d.gateways.length)] }

/-- Takes the gateway of a host that a server names as the next one in order, with the load that it
is named with, unless there is no such gateway or it was named before. -/
def moveUp (d : Directory) (e : NamedHost) : Directory :=
  match d.index.lookup e.host with
  | none => d
  | some i =>
    if d.presorted.contains i then d
    else { d with
      gateways := match e.load with
        | some load => d.gateways.modify i (·.withLoad load)
        | none => d.gateways
      presorted := d.presorted ++ [i] }

/-- Goes by the order of a server, if there is one and it names a gateway that there is. -/
def follow (d : Directory) (order : Option ServerOrder) : Directory :=
  let d := (order.elim [] ServerOrder.hosts).foldl moveUp d
  { d with
    strategy :=
      if d.presorted.isEmpty then .clientTimezone
      else order.elim .clientTimezone ServerOrder.strategy }

/-- The directory of a provider for a client. -/
def build (provider : Provider) (preferences : Preferences) (clientTimezone : Int) : Directory :=
  (provider.service.gateways.foldl (takeIn provider) { preferences, clientTimezone }).follow
    provider.order

/-! ### Gateways in order -/

variable (d : Directory)

/-- The gateway of a host. -/
def gateway? (host : String) : Option Gateway :=
  (d.index.lookup host).bind fun i => d.gateways[i]?

/-- The gateways in the order in which they are offered. -/
def orderedIn (arithmetic : Arithmetic) : Except Overflow (List Gateway) := do
  let numbers ←
    if d.strategy.isPresorted then .ok d.presorted
    else rankNumbersIn arithmetic d.clientTimezone d.gateways
  .ok (ranked d.gateways numbers 0)

/-- The gateways in order if differences wrap around. -/
def ordered : List Gateway :=
  if d.strategy.isPresorted then ranked d.gateways d.presorted 0
  else rank d.clientTimezone d.gateways

/-- The transport that the client prefers. -/
def transport : Transport := d.preferences.transport

/-- Do the gateways stand in more than one location? -/
def hasSeveralLocations : Bool :=
  match d.gateways with
  | [] => false
  | g :: gs => gs.any (·.name != g.name)

/-- The name of the location of the first gateway with an address. -/
def nameForAddress? (address : String) : Option String :=
  (d.gateways.find? (·.address == address)).map (·.name)

end Directory

end VpnDirectory
