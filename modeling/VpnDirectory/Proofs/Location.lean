import VpnDirectory.Location

/-!
# Locations gateway by gateway

What is left of gateways that a location takes into account one after another.

* `Location.runningMean` : the mean of loads as it is kept up while they come in.
* `Location.addAll_eq` : the mean and the number of gateways after many of them.
* `Location.mem_transports_addAll` : the transports are those that one of the gateways has.
* `Location.unmarked_addAll` : whether the place is the preferred city plays no part.
-/

namespace VpnDirectory.Location

variable {α : Type} [IntCast α] [Add α] [Mul α] [Div α]

/-- The mean after more loads have come in one after another, if `n` loads had the mean `mean`. -/
def meanAfter (n : Nat) (mean : α) : List α → α
  | [] => mean
  | x :: xs =>
    meanAfter (n + 1) ((((n : Int) : α) * mean + x) / (((n : Int) : α) + ((1 : Int) : α))) xs

/-- The mean of loads that come in one after another. -/
def runningMean (loads : List α) : α := meanAfter 0 ((0 : Int) : α) loads

/-- Takes gateways into account one after another, each with its load and its transports. -/
def addAll (l : Location α) (gateways : List (α × List Transport)) : Location α :=
  gateways.foldl (fun l g => l.add g.1 g.2) l

variable {l : Location α} {gateways : List (α × List Transport)} {t : Transport}

theorem addAll_concat (l : Location α) (gateways : List (α × List Transport))
    (g : α × List Transport) : l.addAll (gateways ++ [g]) = (l.addAll gateways).add g.1 g.2 := by
  rw [addAll, List.foldl_append]
  rfl

/-- Only the mean, the number and the transports change. -/
theorem addAll_eq (l : Location α) (gateways : List (α × List Transport)) :
    l.addAll gateways = { l with
      averageLoad := meanAfter l.gatewayCount l.averageLoad (gateways.map (·.1))
      gatewayCount := l.gatewayCount + gateways.length
      transports := (l.addAll gateways).transports } := by
  induction gateways generalizing l with
  | nil => rfl
  | cons g gs ih =>
    have hstep : l.addAll (g :: gs) = (l.add g.1 g.2).addAll gs := rfl
    rw [hstep, ih]
    simp only [add, List.length_cons, List.map_cons, meanAfter]
    congr 1
    omega

theorem mem_unite {a b : List Transport} : t ∈ unite a b ↔ t ∈ a ∨ t ∈ b := by
  simp [unite, Transport.mem_all]

theorem mem_transports_addAll :
    t ∈ (l.addAll gateways).transports ↔ t ∈ l.transports ∨ ∃ g ∈ gateways, t ∈ g.2 := by
  induction gateways generalizing l with
  | nil => simp [addAll]
  | cons g gs ih =>
    have hstep : l.addAll (g :: gs) = (l.add g.1 g.2).addAll gs := rfl
    rw [hstep, ih, add, mem_unite]
    simp [or_assoc]

/-- The transports stay in their order and without repetition. -/
theorem transports_addAll_sublist (h : l.transports.Sublist Transport.all) :
    (l.addAll gateways).transports.Sublist Transport.all := by
  induction gateways generalizing l with
  | nil => exact h
  | cons g gs ih => exact ih (l := l.add g.1 g.2) List.filter_sublist

/-- The place whether it is the preferred city or not. -/
def unmarked (l : Location α) : Location α := { l with isSelected := false }

theorem unmarked_addAll (l : Location α) (gateways : List (α × List Transport)) :
    (l.addAll gateways).unmarked = l.unmarked.addAll gateways := by
  induction gateways generalizing l with
  | nil => rfl
  | cons g gs ih => exact ih (l.add g.1 g.2)

end VpnDirectory.Location
