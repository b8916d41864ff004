import VpnDirectory.Directory.Order

/-!
# What a geo document names

`GeoDocument.named` are the hosts that a geo document names, in its order: the hosts of the objects
under one key, or the texts under another one. `GeoDocument.named_of_ofJson?` : this is the order
that is read from the document, and a document without one names no host.
-/

namespace VpnDirectory

namespace GeoDocument

/-- Does the document name hosts with loads? It does if it has the key, whatever stands there. -/
def namesLoads (doc : Json) : Bool := (doc.member? "sorted_gateways").isSome

/-- The items of the list that counts. -/
def items (doc : Json) : List Json :=
  Lenient.items (if namesLoads doc then doc.member? "sorted_gateways" else doc.member? "gateways")

/-- The host that an item names: the host of an object, with its load, or a text. -/
def named? (loads : Bool) (item : Json) : Option NamedHost :=
  if loads then
    match item.member? "host" with
    | some (.text host) => some ⟨host, some {
        fullness := .ofFloat (Lenient.real (item.member? "fullness"))
        overload := Lenient.bool (item.member? "overload") }⟩
    | _ => none
  else
    match item with
    | .text host => some ⟨host, none⟩
    | _ => none

/-- The hosts that a document names, in its order. -/
def named (doc : Json) : List NamedHost := (items doc).filterMap (named? (namesLoads doc))

/-- The strategy that a document asks for. -/
def strategy (doc : Json) : Strategy := if namesLoads doc then .serverLoad else .serverOrder

theorem map_loadedHost (item : Json) :
    (LoadedHost.ofJson? item).map (fun h => (⟨h.host, some h.load⟩ : NamedHost)) =
      named? true item := by
  unfold LoadedHost.ofJson? named?
  rw [if_pos rfl]
  cases item.member? "host" with
  | none => rfl
  | some v => cases v <;> rfl

theorem map_text (item : Json) :
    item.text?.map (fun h => (⟨h, none⟩ : NamedHost)) = named? false item := by
  cases item <;> rfl

/-- A document that is read as an order names the hosts of the order. -/
theorem named_of_ofJson? {doc : Json} {order : ServerOrder}
    (h : ServerOrder.ofJson? doc = some order) :
    order.hosts = named doc ∧ order.strategy = strategy doc := by
  rw [ServerOrder.ofJson?] at h
  rw [named, items, strategy]
  cases hsorted : doc.member? "sorted_gateways" with
  | some sorted =>
    have hloads : namesLoads doc = true := by rw [namesLoads, hsorted]; rfl
    rw [hsorted] at h
    cases h
    rw [if_pos hloads, if_pos hloads, hloads]
    refine ⟨?_, rfl⟩
    rw [ServerOrder.hosts, List.map_filterMap]
    congr 1
    funext item
    exact map_loadedHost item
  | none =>
    have hloads : namesLoads doc = false := by rw [namesLoads, hsorted]; rfl
    rw [hsorted] at h
    dsimp only at h
    split at h
    · next hosts hgateways =>
      cases h
      rw [hloads, hgateways]
      refine ⟨?_, rfl⟩
      rw [ServerOrder.hosts, List.map_filterMap]
      congr 1
      funext item
      exact map_text item
    · cases h

theorem named_of_ofJson?_eq_none {doc : Json} (h : ServerOrder.ofJson? doc = none) :
    named doc = [] := by
  rw [ServerOrder.ofJson?] at h
  split at h
  · cases h
  · next hsorted =>
    have hloads : namesLoads doc = false := by rw [namesLoads, hsorted]; rfl
    split at h
    · cases h
    · next hgateways =>
      have hitems : Lenient.items (doc.member? "gateways") = [] := by
        rw [Lenient.items]
        cases hmember : doc.member? "gateways" with
        | none => rfl
        | some v =>
          cases v with
          | array hosts => exact absurd hmember (hgateways hosts)
          | _ => rfl
      rw [named, items, hloads, if_neg (by decide), hitems]
      rfl

/-- Hosts that are named without loads have none. -/
theorem load_of_mem_named {doc : Json} {e : NamedHost} (hloads : namesLoads doc = false)
    (h : e ∈ named doc) : e.load = none := by
  rw [named, hloads] at h
  obtain ⟨item, -, hitem⟩ := List.mem_filterMap.1 h
  rw [← map_text, Option.map_eq_some_iff] at hitem
  obtain ⟨host, -, rfl⟩ := hitem
  rfl

end GeoDocument

end VpnDirectory
