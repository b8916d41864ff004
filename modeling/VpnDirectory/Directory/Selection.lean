import VpnDirectory.Directory.Basic

/-!
# Selecting gateways

A gateway is selected by its place in the list of those that fit, `Directory.offered`.
`Directory.position` is the way back, from a profile to the place of its gateway.

A question whose name ends in `In` is asked in an arithmetic of its own, and may end without an
answer if that is a checked one. The question without it is asked in wrapping arithmetic.
-/

namespace VpnDirectory

/-- The gateways of a list with a transport, in a city if one is given. -/
def fitting (t : Transport) (city : Option String) (gateways : List Gateway) : List Gateway :=
  gateways.filter fun g => g.supports t && city.all (g.name == ·)

/-- The place of the first gateway of a list that has this very profile. -/
def placeOf (p : Profile) (t : Transport) (gateways : List Gateway) : Option Nat :=
  gateways.findIdx? fun g => decide (g.profile? t = some p)

namespace Directory

/-- The transport that a profile is looked for under. -/
def transportOf (p : Profile) : Transport := if p.isPluggable then .obfs4 else .openvpn

variable (d : Directory) (arithmetic : Arithmetic)

/-- The gateways with a transport, in a city if one is given, in order. -/
def offeredIn (t : Transport) (city : Option String) : Except Overflow (List Gateway) := do
  .ok (fitting t city (← d.orderedIn arithmetic))

@[inherit_doc offeredIn]
def offered (t : Transport) (city : Option String) : List Gateway := fitting t city d.ordered

/-- The gateway at a place of the gateways with a transport. -/
def selectForIn (n : Nat) (t : Transport) (city : Option String) :
    Except Overflow (Option Gateway) := do
  .ok (← d.offeredIn arithmetic t city)[n]?

/-- How many gateways can be selected with a transport. -/
def countIn (t : Transport) (city : Option String) : Nat :=
  (d.offeredIn arithmetic t city).toOption.elim 0 (·.length)

theorem lt_countIn_of_selectForIn {d : Directory} {arithmetic : Arithmetic} {n : Nat}
    {t : Transport} {city : Option String} {g : Gateway}
    (h : d.selectForIn arithmetic n t city = .ok (some g)) : n < d.countIn arithmetic t city := by
  unfold selectForIn at h
  unfold countIn
  cases hoffered : d.offeredIn arithmetic t city with
  | error e =>
    rw [hoffered] at h
    cases h
  | ok gateways =>
    rw [hoffered] at h
    exact (List.getElem?_eq_some_iff.1 (Except.ok.inj h)).1

@[inherit_doc selectForIn]
def selectFor (n : Nat) (t : Transport) (city : Option String) : Option Gateway :=
  (d.offered t city)[n]?

/-- The gateway at a place of the gateways with the preferred transport. -/
def selectIn (n : Nat) (city : Option String) : Except Overflow (Option Gateway) :=
  d.selectForIn arithmetic n d.transport city

@[inherit_doc selectIn]
def select (n : Nat) (city : Option String) : Option Gateway := d.selectFor n d.transport city

/-- The gateway at a place as the client prefers: the pinned one alone, or else those of the
preferred city. -/
def selectPreferredIn (n : Nat) : Except Overflow (Option Gateway) :=
  match d.preferences.pinnedGateway with
  | some host => .ok ((d.gateway? host).filter fun g => n == 0 && g.supports d.transport)
  | none => d.selectIn arithmetic n d.preferences.preferredCity

@[inherit_doc selectPreferredIn]
def selectPreferred (n : Nat) : Option Gateway :=
  match d.preferences.pinnedGateway with
  | some host => (d.gateway? host).filter fun g => n == 0 && g.supports d.transport
  | none => d.select n d.preferences.preferredCity

/-- The place of the gateway that has this very profile, among those with its transport. -/
def positionIn (p : Profile) : Except Overflow (Option Nat) := do
  .ok (placeOf p (transportOf p) (← d.offeredIn arithmetic (transportOf p) none))

@[inherit_doc positionIn]
def position (p : Profile) : Option Nat :=
  placeOf p (transportOf p) (d.offered (transportOf p) none)

end Directory

end VpnDirectory
