import VpnDirectory.Directory.Locations
import VpnDirectory.Proofs.Directory.Order

/-!
# Questions that may stop

Time zones come from documents and may be any numbers of 32 bits, so that their differences need not
fit. A question goes by a difference where it compares gateways and where it estimates a load. In
checked arithmetic it has an answer if all of these differences fit, and the answer is that of
wrapping arithmetic.

* `Directory.isOrderInReach` : whether there is an order. `Directory.selectForIn_eq`,
  `Directory.selectPreferredIn_eq`, `Directory.positionIn_eq` : it decides on all that is selected,
  but for a pinned gateway.
* `Directory.areLocationsInReach` : whether there are locations of the gateways that are offered.
  `Directory.locationsIn_eq`, `Directory.sortedLocationsIn_eq`, `Directory.locationIn?_eq`,
  `Directory.loadOfIn_eq` : it decides on them and on their loads.
-/

namespace VpnDirectory

/-- Does the load come of a report, or of a difference that fits? -/
def Gateway.isLoadInReach (client : Int) (g : Gateway) : Bool :=
  g.load.isSome || Clock.inReach client g.timezone

theorem Gateway.fullnessIn_eq {α : Type} [LoadNumber α] (arithmetic : Arithmetic) (client : Int)
    (g : Gateway) : (g.fullnessIn arithmetic client : Except Overflow α) =
      arithmetic.answer (g.isLoadInReach client) (g.fullness client) := by
  unfold fullnessIn fullness isLoadInReach
  cases g.load with
  | some load => exact (Arithmetic.answer_true arithmetic _).symm
  | none => exact Clock.estimateIn_eq arithmetic client g.timezone

namespace Directory

variable (arithmetic : Arithmetic) (d : Directory)

/-! ### The order -/

/-- Are the time zones that the order goes by in reach? There are none in the order of a server, and
a gateway alone is not compared. -/
def isOrderInReach : Bool :=
  d.strategy.isPresorted || isRankInReach d.clientTimezone d.gateways

variable {d} in
theorem isOrderInReach_of_isPresorted (h : d.strategy.isPresorted) : d.isOrderInReach := by
  rw [isOrderInReach, h, Bool.true_or]

theorem orderedIn_eq :
    d.orderedIn arithmetic = arithmetic.answer d.isOrderInReach d.ordered := by
  unfold orderedIn isOrderInReach ordered
  cases d.strategy.isPresorted with
  | true => exact (Arithmetic.answer_true arithmetic _).symm
  | false =>
    rw [if_neg Bool.false_ne_true, if_neg Bool.false_ne_true, Bool.false_or, rankNumbersIn_eq]
    exact Arithmetic.answer_bind_ok _ _ (ranked d.gateways · 0)

/-! ### Selection -/

theorem offeredIn_eq (t : Transport) (city : Option String) :
    d.offeredIn arithmetic t city = arithmetic.answer d.isOrderInReach (d.offered t city) := by
  rw [offeredIn, orderedIn_eq]
  exact Arithmetic.answer_bind_ok _ _ (fitting t city)

theorem selectForIn_eq (n : Nat) (t : Transport) (city : Option String) :
    d.selectForIn arithmetic n t city =
      arithmetic.answer d.isOrderInReach (d.selectFor n t city) := by
  rw [selectForIn, offeredIn_eq]
  exact Arithmetic.answer_bind_ok _ _ fun gs => gs[n]?

theorem selectIn_eq (n : Nat) (city : Option String) :
    d.selectIn arithmetic n city = arithmetic.answer d.isOrderInReach (d.select n city) :=
  selectForIn_eq arithmetic d n d.transport city

/-- Is there an answer to what the client prefers? A pinned gateway is found without an order. -/
def isPreferenceInReach : Bool := d.preferences.pinnedGateway.isSome || d.isOrderInReach

theorem selectPreferredIn_eq (n : Nat) :
    d.selectPreferredIn arithmetic n =
      arithmetic.answer d.isPreferenceInReach (d.selectPreferred n) := by
  unfold selectPreferredIn selectPreferred isPreferenceInReach
  cases d.preferences.pinnedGateway with
  | some host => exact (Arithmetic.answer_true arithmetic _).symm
  | none => exact selectIn_eq arithmetic d n d.preferences.preferredCity

theorem positionIn_eq (p : Profile) :
    d.positionIn arithmetic p = arithmetic.answer d.isOrderInReach (d.position p) := by
  rw [positionIn, offeredIn_eq]
  exact Arithmetic.answer_bind_ok _ _ (placeOf p (transportOf p))

/-! ### Locations -/

variable {α : Type} [LoadNumber α]

theorem locationsOfIn_eq (gateways : List Gateway) :
    (d.locationsOfIn arithmetic gateways : Except Overflow (List (Location α))) =
      arithmetic.answer (gateways.all (·.isLoadInReach d.clientTimezone))
        (d.locationsOf gateways) := by
  refine Arithmetic.foldlM_eq_answer gateways [] fun ls g _ => ?_
  rw [Gateway.fullnessIn_eq]
  exact Arithmetic.answer_bind_ok _ _ fun fullness => d.addTo g fullness ls

/-- Are the time zones in reach that the locations of a transport go by, in a city if one is given?
They order the gateways and stand in for the loads that are not reported. -/
def areLocationsInReach (t : Transport) (city : Option String) : Bool :=
  d.isOrderInReach && (d.offered t city).all (·.isLoadInReach d.clientTimezone)

/-- The locations of the gateways that are offered, for whatever question. -/
theorem bind_locationsOfIn_eq (t : Transport) (city : Option String) :
    (d.offeredIn arithmetic t city >>= d.locationsOfIn arithmetic :
      Except Overflow (List (Location α))) =
      arithmetic.answer (d.areLocationsInReach t city) (d.locationsOf (d.offered t city)) := by
  rw [offeredIn_eq]
  exact Arithmetic.answer_bind (locationsOfIn_eq arithmetic d (d.offered t city))

theorem locationsIn_eq : (d.locationsIn arithmetic : Except Overflow (List (Location α))) =
    arithmetic.answer (d.areLocationsInReach d.transport none) d.locations :=
  bind_locationsOfIn_eq arithmetic d d.transport none

theorem sortedLocationsIn_eq (t : Transport) :
    (d.sortedLocationsIn arithmetic t : Except Overflow (List (Location α))) =
      arithmetic.answer (d.areLocationsInReach t none) (d.sortedLocations t) := by
  have hlocations := bind_locationsOfIn_eq (α := α) arithmetic d t none
  rw [sortedLocationsIn, ← bind_assoc, hlocations]
  exact Arithmetic.answer_bind_ok _ _ sortedByLoad

theorem locationIn?_eq (name : String) :
    (d.locationIn? arithmetic name : Except Overflow (Option (Location α))) =
      arithmetic.answer (d.areLocationsInReach d.transport none) (d.location? name) := by
  rw [locationIn?, locationsIn_eq]
  exact Arithmetic.answer_bind_ok _ _ fun ls : List (Location α) => ls.find? (·.name == name)

theorem loadOfIn_eq (name : String) (t : Transport) :
    d.loadOfIn (α := α) arithmetic name t =
      arithmetic.answer (d.areLocationsInReach t (some name)) (d.loadOf (α := α) name t) := by
  have hlocations := bind_locationsOfIn_eq (α := α) arithmetic d t (some name)
  rw [loadOfIn, ← bind_assoc, hlocations]
  exact Arithmetic.answer_bind_ok _ _ firstLoad

end Directory

end VpnDirectory
