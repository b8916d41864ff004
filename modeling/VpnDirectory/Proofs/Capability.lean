import VpnDirectory.Proofs.Fallible
import VpnDirectory.Provider

/-!
# What gateways and providers offer

There are two ways to ask a gateway entry for transports: `Capability.supports` goes through its
matrix entry by entry, for one pair of transport and protocol, while `Capability.offersAny` draws up
all pairs of the matrix and compares them with those that are allowed.

* `Capability.supports_iff` : a pair is offered if an entry of a readable matrix is for the
  transport and publishes the name of the protocol.
* `Capability.offersAny_iff` : one of several pairs is offered if one of them is.
* `Provider.offersAny_congr` : entries whose matrix cannot be read make no difference to a provider.
* `Provider.offers_agree_supports` : all of this for every entry and every provider.
-/

namespace VpnDirectory

namespace TransportEntry

variable {e : TransportEntry} {t : Transport} {p : Protocol}

/-- A protocol is known under its own name only. -/
theorem mem_knownProtocols_iff : p ∈ e.knownProtocols ↔ p.name ∈ e.protocols := by
  rw [knownProtocols, List.mem_filterMap]
  constructor
  · rintro ⟨name, hname, hp⟩
    rwa [Protocol.name_of_ofName? hp]
  · intro hname
    exact ⟨p.name, hname, Protocol.ofName?_name p⟩

theorem supports_iff : e.supports t p ↔ e.transport = some t ∧ p.name ∈ e.protocols := by
  rw [supports, isFor, Bool.and_eq_true, beq_iff_eq, List.contains_iff_mem, mem_knownProtocols_iff]

/-- The pairs that are drawn up are those that the entry supports. -/
theorem mem_offered_iff : (t, p) ∈ e.offered ↔ e.supports t p := by
  rw [supports_iff]
  unfold offered
  cases htransport : e.transport with
  | none => simp
  | some t' =>
    simp only [List.mem_map, Prod.mk.injEq, Option.some.injEq]
    constructor
    · rintro ⟨p', hp', rfl, rfl⟩
      exact ⟨rfl, mem_knownProtocols_iff.1 hp'⟩
    · rintro ⟨rfl, hp⟩
      exact ⟨p, mem_knownProtocols_iff.2 hp, rfl, rfl⟩

end TransportEntry

namespace Capability

variable {entry : Json} {allowed : List Pair} {t : Transport} {p : Protocol}

theorem supports_iff : supports entry t p ↔ ∃ matrix, matrixOf entry = .ok matrix ∧
    ∃ e ∈ matrix, e.transport = some t ∧ p.name ∈ e.protocols := by
  unfold supports
  cases matrixOf entry with
  | error e => simp
  | ok matrix => simp [TransportEntry.supports_iff]

/-- Nothing is offered without a matrix. -/
theorem exists_matrix_of_offersAny (h : offersAny entry allowed) :
    ∃ matrix, matrixOf entry = .ok matrix := by
  unfold offersAny at h
  cases hmatrix : matrixOf entry with
  | ok matrix => exact ⟨matrix, rfl⟩
  | error e =>
    rw [hmatrix] at h
    cases h

/-- One of several pairs is offered if one of them is. -/
theorem offersAny_iff : offersAny entry allowed ↔
    ∃ pair ∈ allowed, supports entry pair.1 pair.2 := by
  unfold offersAny supports
  cases matrixOf entry with
  | error e => simp
  | ok matrix =>
    -- both sides speak of a pair and an entry of the matrix that offers it
    simp only [offered, List.any_eq_true, List.mem_flatMap, List.contains_iff_mem]
    constructor
    · rintro ⟨pair, ⟨e, he, hpair⟩, hallowed⟩
      exact ⟨pair, hallowed, e, he, TransportEntry.mem_offered_iff.1 hpair⟩
    · rintro ⟨pair, hallowed, e, he, hpair⟩
      exact ⟨pair, ⟨e, he, TransportEntry.mem_offered_iff.2 hpair⟩, hallowed⟩

/-- A client that dials bridges can use the experimental pairs besides those of every other. -/
theorem pluggablePairs_true : pluggablePairs true = pluggablePairs false ++ experimentalPairs := rfl

end Capability

namespace Provider

variable {p p' : Provider} {allowed allowed' : List Pair}

theorem offersAny_iff : p.offersAny allowed ↔
    ∃ entry ∈ p.service.gateways, ∃ pair ∈ allowed, Capability.supports entry pair.1 pair.2 := by
  rw [offersAny, List.any_eq_true]
  simp only [Capability.offersAny_iff]

theorem offersAny_append :
    p.offersAny (allowed ++ allowed') ↔ p.offersAny allowed ∨ p.offersAny allowed' := by
  simp only [offersAny_iff, List.mem_append, or_and_right, exists_or, and_or_left]

/-- Two providers publish the same entries with a matrix that can be read, in whatever order and
among whatever other entries. -/
def SameMatrices (p p' : Provider) : Prop :=
  ∀ entry matrix, Capability.matrixOf entry = .ok matrix →
    (entry ∈ p.service.gateways ↔ entry ∈ p'.service.gateways)

theorem SameMatrices.symm (h : p.SameMatrices p') : p'.SameMatrices p :=
  fun entry matrix hmatrix => (h entry matrix hmatrix).symm

/-- Whatever is offered, an entry with a matrix offers it. -/
theorem SameMatrices.offersAny (h : p.SameMatrices p') (hoffers : p.offersAny allowed) :
    p'.offersAny allowed := by
  obtain ⟨entry, hentry, hany⟩ := List.any_eq_true.1 hoffers
  obtain ⟨matrix, hmatrix⟩ := Capability.exists_matrix_of_offersAny hany
  exact List.any_eq_true.2 ⟨entry, (h entry matrix hmatrix).1 hentry, hany⟩

theorem offersAny_congr (h : p.SameMatrices p') (allowed : List Pair) :
    p.offersAny allowed = p'.offersAny allowed :=
  Bool.eq_iff_iff.2 ⟨h.offersAny, h.symm.offersAny⟩

/-- An entry whose matrix cannot be read may come in anywhere. -/
theorem sameMatrices_of_unreadable {front back : List Json} {entry : Json} {e : CapabilityError}
    (hentry : Capability.matrixOf entry = .error e)
    (hp : p.service.gateways = front ++ entry :: back)
    (hp' : p'.service.gateways = front ++ back) : p.SameMatrices p' := by
  intro other matrix hmatrix
  have hne : other ≠ entry := by
    rintro rfl
    cases hentry.symm.trans hmatrix
  rw [hp, hp', List.mem_append, List.mem_append, List.mem_cons, or_iff_right hne]

/-- The ways to ask for transports agree. An entry offers one of several pairs exactly when it
supports one of them, and it supports a pair exactly when an entry of its matrix is for the
transport and names the protocol; without a matrix it supports none. So a client that dials bridges
finds a pluggable transport exactly when there is one for every client or an experimental one, and
entries whose matrix cannot be read make no difference. -/
theorem offers_agree_supports :
    (∀ entry allowed, Capability.offersAny entry allowed ↔
      ∃ pair ∈ allowed, Capability.supports entry pair.1 pair.2) ∧
    (∀ entry t p, Capability.supports entry t p ↔ ∃ matrix, Capability.matrixOf entry = .ok matrix ∧
      ∃ e ∈ matrix, e.transport = some t ∧ p.name ∈ e.protocols) ∧
    ∀ p : Provider,
      (p.offersPluggable true ↔ p.offersPluggable false ∨ p.offersExperimental) ∧
      ∀ p', p.SameMatrices p' →
        (∀ dialsBridges, p.offersPluggable dialsBridges = p'.offersPluggable dialsBridges) ∧
          p.offersExperimental = p'.offersExperimental := by
  refine ⟨fun entry allowed => Capability.offersAny_iff, fun entry t p => Capability.supports_iff,
    fun p => ⟨?_, fun p' h => ⟨fun dialsBridges => ?_, ?_⟩⟩⟩
  · rw [offersPluggable, Capability.pluggablePairs_true]
    exact offersAny_append
  · exact offersAny_congr h (Capability.pluggablePairs dialsBridges)
  · exact offersAny_congr h Capability.experimentalPairs

/-! ### A broken entry before another one -/

/-- An entry without capabilities. -/
def brokenEntry : Json := .object [("host", .text "a.example")]

/-- An entry that offers obfs4 over KCP, and over a protocol that is not known. -/
def kcpEntry : Json :=
  .object [("capabilities", .object [("transport", .array [.object [("type", .text "obfs4"),
    ("protocols", .array [.text "quic", .text "kcp"])]])])]

def kcpAlone : Provider := { service := { gateways := [kcpEntry] } }

def kcpBehindBroken : Provider := { service := { gateways := [brokenEntry, kcpEntry] } }

/-- The experimental transport is found behind the broken entry, and counts as pluggable only for
clients that dial bridges. -/
theorem offers_agree_supports_kcpBehindBroken :
    kcpBehindBroken.SameMatrices kcpAlone ∧ kcpBehindBroken.offersExperimental = true ∧
      kcpBehindBroken.offersPluggable true = true ∧
      kcpBehindBroken.offersPluggable false = false := by
  obtain ⟨-, -, hproviders⟩ := offers_agree_supports
  obtain ⟨hpluggable, hsame⟩ := hproviders kcpBehindBroken
  have hbroken : Capability.matrixOf brokenEntry = .error .missingCapabilities := rfl
  have hgateways : kcpBehindBroken.service.gateways = [] ++ brokenEntry :: [kcpEntry] := rfl
  have hmatrices : kcpBehindBroken.SameMatrices kcpAlone :=
    sameMatrices_of_unreadable hbroken hgateways rfl
  obtain ⟨hflags, hexperimental⟩ := hsame kcpAlone hmatrices
  have hkcp : kcpBehindBroken.offersExperimental = true := by
    rw [hexperimental]
    rfl
  refine ⟨hmatrices, hkcp, hpluggable.2 (.inr hkcp), ?_⟩
  rw [hflags]
  rfl

end Provider

end VpnDirectory
