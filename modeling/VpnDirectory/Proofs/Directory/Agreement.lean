import VpnDirectory.Command.Report
import VpnDirectory.Proofs.Directory.Selection

/-!
# Directories that answer alike

Two directories can come about in different ways and yet not be told apart by questions.

* `Directory.OrderAlike` : what they have to have in common for questions about selection, and
  `Directory.Agree` : for those about locations and loads as well.
* `Directory.SelectsAlike`, `Directory.AnswersAlike` : the same answers, in an arithmetic that may
  give none. `Directory.OrderAlike.selectsAlike`, `Directory.Agree.answersAlike` : what they have in
  common is enough in any arithmetic.
-/

namespace VpnDirectory.Directory

variable {α : Type} [LoadNumber α] {d d' : Directory} {arithmetic : Arithmetic}

/-! ### What directories have in common -/

/-- The same gateways are offered in the same order, and the same one is found under every host. -/
structure OrderAlike (d d' : Directory) : Prop where
  ordered : d.ordered = d'.ordered
  isOrderInReach : d.isOrderInReach = d'.isOrderInReach
  gateway? : ∀ host, d.gateway? host = d'.gateway? host
  preferences : d.preferences = d'.preferences

/-- Gateways that are offered without a load are equally far from the clients of both as well. -/
structure Agree (d d' : Directory) : Prop extends OrderAlike d d' where
  distance : ∀ g ∈ d.ordered, g.load = none →
    Clock.distance d.clientTimezone g.timezone = Clock.distance d'.clientTimezone g.timezone
  isLoadInReach : ∀ g ∈ d.ordered,
    g.isLoadInReach d.clientTimezone = g.isLoadInReach d'.clientTimezone

namespace OrderAlike

theorem transport_eq (h : OrderAlike d d') : d.transport = d'.transport := by
  rw [transport, transport, h.preferences]

theorem offered_eq (h : OrderAlike d d') (t : Transport) (city : Option String) :
    d.offered t city = d'.offered t city := by
  rw [offered, offered, h.ordered]

theorem selectFor_eq (h : OrderAlike d d') (n : Nat) (t : Transport) (city : Option String) :
    d.selectFor n t city = d'.selectFor n t city := by
  rw [selectFor, selectFor, h.offered_eq]

theorem select_eq (h : OrderAlike d d') (n : Nat) (city : Option String) :
    d.select n city = d'.select n city := by
  rw [select, select, h.transport_eq, h.selectFor_eq]

theorem selectPreferred_eq (h : OrderAlike d d') (n : Nat) :
    d.selectPreferred n = d'.selectPreferred n := by
  rw [selectPreferred, selectPreferred, h.preferences, h.transport_eq]
  cases d'.preferences.pinnedGateway with
  | none => exact h.select_eq n _
  | some host =>
    dsimp only
    rw [h.gateway?]

theorem position_eq (h : OrderAlike d d') (p : Profile) : d.position p = d'.position p := by
  rw [position, position, h.offered_eq]

theorem isPreferenceInReach_eq (h : OrderAlike d d') :
    d.isPreferenceInReach = d'.isPreferenceInReach := by
  rw [isPreferenceInReach, isPreferenceInReach, h.preferences, h.isOrderInReach]

end OrderAlike

namespace Agree

theorem fullness_eq (h : Agree d d') {g : Gateway} (hg : g ∈ d.ordered) :
    (g.fullness d.clientTimezone : α) = g.fullness d'.clientTimezone := by
  unfold Gateway.fullness
  cases hload : g.load with
  | some load => rfl
  | none =>
    dsimp only
    rw [Clock.estimate, Clock.estimate, h.distance g hg hload]

theorem addTo_eq (h : Agree d d') (g : Gateway) (fullness : α) (ls : List (Location α)) :
    d.addTo g fullness ls = d'.addTo g fullness ls := by
  induction ls with
  | nil => rw [addTo, addTo, h.preferences]
  | cons l ls ih => rw [addTo, addTo, ih]

theorem locationsOf_eq (h : Agree d d') {gs : List Gateway} (hgs : ∀ g ∈ gs, g ∈ d.ordered) :
    (d.locationsOf gs : List (Location α)) = d'.locationsOf gs := by
  unfold locationsOf
  refine List.foldl_ext _ _ _ fun ls g hg => ?_
  rw [h.addTo_eq, h.fullness_eq (hgs g hg)]

/-- The gateways that are offered with a transport have the same locations. -/
theorem locationsOf_offered_eq (h : Agree d d') (t : Transport) (city : Option String) :
    (d.locationsOf (d.offered t city) : List (Location α)) =
      d'.locationsOf (d'.offered t city) := by
  rw [← h.offered_eq, h.locationsOf_eq fun g hg => (mem_offered_iff.1 hg).1]

theorem locations_eq (h : Agree d d') : (d.locations : List (Location α)) = d'.locations := by
  rw [locations, locations, h.locationsOf_offered_eq, h.transport_eq]

theorem sortedLocations_eq (h : Agree d d') (t : Transport) :
    (d.sortedLocations t : List (Location α)) = d'.sortedLocations t := by
  rw [sortedLocations, sortedLocations, h.locationsOf_offered_eq]

theorem location?_eq (h : Agree d d') (name : String) :
    (d.location? name : Option (Location α)) = d'.location? name := by
  rw [location?, location?, h.locations_eq]

theorem loadOf_eq (h : Agree d d') (name : String) (t : Transport) :
    d.loadOf (α := α) name t = d'.loadOf (α := α) name t := by
  rw [loadOf, loadOf, h.locationsOf_offered_eq]

theorem areLocationsInReach_eq (h : Agree d d') (t : Transport) (city : Option String) :
    d.areLocationsInReach t city = d'.areLocationsInReach t city := by
  rw [areLocationsInReach, areLocationsInReach, h.isOrderInReach, ← h.offered_eq]
  congr 1
  rw [Bool.eq_iff_iff, List.all_eq_true, List.all_eq_true]
  exact forall₂_congr fun g hg => by rw [h.isLoadInReach g (mem_offered_iff.1 hg).1]

end Agree

/-! ### The same answers -/

/-- The same gateways are selected, and stand at the same places. -/
structure SelectsAlike (arithmetic : Arithmetic) (d d' : Directory) : Prop where
  selectForIn : ∀ n t city, d.selectForIn arithmetic n t city = d'.selectForIn arithmetic n t city
  selectPreferredIn : ∀ n, d.selectPreferredIn arithmetic n = d'.selectPreferredIn arithmetic n
  positionIn : ∀ p, d.positionIn arithmetic p = d'.positionIn arithmetic p

/-- The locations and their loads are the same as well, and commands are answered alike. -/
structure AnswersAlike (arithmetic : Arithmetic) (d d' : Directory) : Prop
    extends SelectsAlike arithmetic d d' where
  locationsIn : ∀ {α : Type} [LoadNumber α],
    (d.locationsIn arithmetic : Except Overflow (List (Location α))) = d'.locationsIn arithmetic
  sortedLocationsIn : ∀ {α : Type} [LoadNumber α] (t : Transport),
    (d.sortedLocationsIn arithmetic t : Except Overflow (List (Location α))) =
      d'.sortedLocationsIn arithmetic t
  locationIn? : ∀ {α : Type} [LoadNumber α] (name : String),
    (d.locationIn? arithmetic name : Except Overflow (Option (Location α))) =
      d'.locationIn? arithmetic name
  loadOfIn : ∀ {α : Type} [LoadNumber α] (name : String) (t : Transport),
    d.loadOfIn (α := α) arithmetic name t = d'.loadOfIn (α := α) arithmetic name t
  directoryOutcome : ∀ command,
    Report.directoryOutcome arithmetic d command = Report.directoryOutcome arithmetic d' command

theorem OrderAlike.selectsAlike (h : OrderAlike d d') : SelectsAlike arithmetic d d' where
  selectForIn n t city := by
    rw [selectForIn_eq, selectForIn_eq, h.isOrderInReach, h.selectFor_eq]
  selectPreferredIn n := by
    rw [selectPreferredIn_eq, selectPreferredIn_eq, h.isPreferenceInReach_eq, h.selectPreferred_eq]
  positionIn p := by
    rw [positionIn_eq, positionIn_eq, h.isOrderInReach, h.position_eq]

namespace Agree

theorem locationsIn_eq (h : Agree d d') :
    (d.locationsIn arithmetic : Except Overflow (List (Location α))) =
      d'.locationsIn arithmetic := by
  rw [Directory.locationsIn_eq, Directory.locationsIn_eq, h.areLocationsInReach_eq, h.transport_eq,
    h.locations_eq]

theorem sortedLocationsIn_eq (h : Agree d d') (t : Transport) :
    (d.sortedLocationsIn arithmetic t : Except Overflow (List (Location α))) =
      d'.sortedLocationsIn arithmetic t := by
  rw [Directory.sortedLocationsIn_eq, Directory.sortedLocationsIn_eq, h.areLocationsInReach_eq,
    h.sortedLocations_eq]

theorem directoryOutcome_eq (h : Agree d d') (command : Command) :
    Report.directoryOutcome arithmetic d command =
      Report.directoryOutcome arithmetic d' command := by
  cases command with
  | gateways transport city =>
    rw [Report.directoryOutcome_gateways, Report.directoryOutcome_gateways, h.isOrderInReach,
      h.transport_eq, h.offered_eq]
  | locations transport asJson =>
    have hlocations : Report.locationsFor arithmetic d transport =
        Report.locationsFor arithmetic d' transport := by
      cases transport with
      | none => exact h.locationsIn_eq
      | some t => exact h.sortedLocationsIn_eq t
    rw [Report.directoryOutcome, Report.directoryOutcome, hlocations]
  | profile host t =>
    rw [Report.directoryOutcome, Report.directoryOutcome, Report.profileOutcome,
      Report.profileOutcome, h.gateway?]
  | capabilities => rfl

theorem answersAlike (h : Agree d d') : AnswersAlike arithmetic d d' where
  toSelectsAlike := h.selectsAlike
  locationsIn := h.locationsIn_eq
  sortedLocationsIn := h.sortedLocationsIn_eq
  locationIn? name := by
    rw [locationIn?_eq, locationIn?_eq, h.areLocationsInReach_eq, h.transport_eq, h.location?_eq]
  loadOfIn name t := by
    rw [loadOfIn_eq, loadOfIn_eq, h.areLocationsInReach_eq, h.loadOf_eq]
  directoryOutcome := h.directoryOutcome_eq

end Agree

end VpnDirectory.Directory
