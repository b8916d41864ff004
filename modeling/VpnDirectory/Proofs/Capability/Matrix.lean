import VpnDirectory.Capability
import VpnDirectory.Proofs.Collection.Kept
import VpnDirectory.Proofs.Json.Fields

/-!
# Reading capability matrices

A matrix is read all or nothing: one element without a type spoils it. All else about an element is
lenient, so that its other fields can only be read as less than they hold.

* `TransportEntry.Publishes` : what an element publishes, as an object or as an array of its fields.
* `TransportEntry.ReadFrom` : what an entry takes from that, said of each field on its own.
  `TransportEntry.ofJson_eq_ok_iff` : an element is read exactly if it publishes a type, and as such
  an entry.
* `Capability.matrix_eq_ok_iff` : a matrix is read element by element.
* `Capability.matrix_allOrNothing` : all of this for every value, with the three ways to fail.
-/

namespace VpnDirectory

namespace Lenient

/-! ### Items of lists -/

/-- The value is a text. -/
def IsText (v : Json) (s : String) : Prop := v = .text s

/-- The value is a text, or a number with this text. -/
def IsScalar (v : Json) (s : String) : Prop :=
  v = .text s ∨ ∃ n : Number, v = .number n ∧ s = .ofList n.chars

/-- The texts that the items of a field stand for, in their order; a field that is missing or no
array has no items. -/
inductive Lists (R : Json → String → Prop) : Option Json → List String → Prop
  | array {xs : List Json} {ss : List String} (h : Kept R xs ss) : Lists R (some (.array xs)) ss
  | empty {field : Option Json} (h : ∀ xs, field ≠ some (.array xs)) : Lists R field []

variable {R : Json → String → Prop} {g : Json → Option String} {field : Option Json}
  {ss : List String}

theorem isText_iff (v : Json) (s : String) : IsText v s ↔ v.text? = some s := by
  unfold IsText
  cases v <;> simp [Json.text?]

theorem isScalar_iff (v : Json) (s : String) : IsScalar v s ↔ scalar? v = some s := by
  unfold IsScalar
  cases v <;> simp [scalar?, eq_comm]

theorem lists_iff (hg : ∀ v s, R v s ↔ g v = some s) :
    Lists R field ss ↔ (items field).filterMap g = ss := by
  constructor
  · rintro (⟨hkept⟩ | ⟨hno⟩)
    · exact (kept_iff hg).1 hkept
    · -- a field of any other shape has no items
      cases field with
      | none => rfl
      | some v =>
        cases v with
        | array xs => exact absurd rfl (hno xs)
        | _ => rfl
  · rintro rfl
    cases field with
    | none => exact .empty nofun
    | some v =>
      cases v with
      | array xs => exact .array ((kept_iff hg).2 rfl)
      | _ => exact .empty nofun

theorem lists_isText_iff : Lists IsText field ss ↔ texts field = ss := lists_iff isText_iff

theorem lists_isScalar_iff : Lists IsScalar field ss ↔ scalars field = ss := lists_iff isScalar_iff

theorem scalar_eq_some_iff {s : String} :
    scalar field = some s ↔ ∃ v, field = some v ∧ IsScalar v s := by
  rw [scalar, Option.bind_eq_some_iff]
  simp only [isScalar_iff]

end Lenient

open Lenient

theorem Transport.ofName?_eq_some_iff {s : String} {t : Transport} :
    ofName? s = some t ↔ t.name = s := by
  constructor
  · exact name_of_ofName?
  · rintro rfl
    exact ofName?_name t

namespace TransportOptions

/-- What options publish: a certificate and a mode, as an object or as an array of one or both of
them. -/
inductive Publishes : Json → (cert iatMode : Option Json) → Prop
  | object (ms : Json.Members) : Publishes (.object ms) (ms.get? "cert") (ms.get? "iatMode")
  | array {xs : List Json} (h : xs.length ≤ 2) : Publishes (.array xs) xs[0]? xs[1]?

/-- A certificate is a text, and may be missing or null. -/
inductive IsCert : Option Json → Option String → Prop
  | missing : IsCert none none
  | null : IsCert (some .null) none
  | text (s : String) : IsCert (some (.text s)) (some s)

/-- The options as they are read: the certificate has to be one, while a mode that is neither a text
nor a number is left out. -/
structure ReadFrom (o : TransportOptions) (cert iatMode : Option Json) : Prop where
  cert : IsCert cert o.cert
  iatMode : ∀ s, o.iatMode = some s ↔ ∃ v, iatMode = some v ∧ IsScalar v s

variable {v : Json} {o : TransportOptions} {cert iatMode : Option Json}

theorem readFrom_iff : o.ReadFrom cert iatMode ↔
    IsCert cert o.cert ∧ o.iatMode = Lenient.scalar iatMode := by
  constructor
  · rintro ⟨hcert, hmode⟩
    exact ⟨hcert, Option.ext fun s => (hmode s).trans scalar_eq_some_iff.symm⟩
  · rintro ⟨hcert, hmode⟩
    exact ⟨hcert, fun s => by rw [hmode, scalar_eq_some_iff]⟩

theorem publishes_iff : Publishes v cert iatMode ↔
    ∃ get, Json.IsRecord fieldNames v get ∧ get "cert" = cert ∧ get "iatMode" = iatMode := by
  constructor
  · rintro (ms | hle)
    · exact ⟨_, .object ms, rfl, rfl⟩
    · exact ⟨_, .array hle, rfl, rfl⟩
  · rintro ⟨get, ms | hle, rfl, rfl⟩
    · exact .object ms
    · exact .array hle

/-- Options are there exactly if they can be read. -/
theorem ofJson?_eq_some_iff : ofJson? v = some o ↔
    ∃ cert iatMode, Publishes v cert iatMode ∧ o.ReadFrom cert iatMode := by
  have hpublished : (∃ cert iatMode, Publishes v cert iatMode ∧ o.ReadFrom cert iatMode) ↔
      ∃ get, v.record fieldNames "options" = .ok get ∧ o.ReadFrom (get "cert") (get "iatMode") := by
    simp only [Json.record_eq_ok_iff, publishes_iff]
    constructor
    · rintro ⟨_, _, ⟨get, hget, rfl, rfl⟩, ho⟩
      exact ⟨get, hget, ho⟩
    · rintro ⟨get, hget, ho⟩
      exact ⟨_, _, ⟨get, hget, rfl, rfl⟩, ho⟩
  rw [hpublished, ofJson?]
  cases v.record fieldNames "options" with
  | error e => simp
  | ok get =>
    simp only [Except.ok.injEq, exists_eq_left', readFrom_iff]
    obtain ⟨cert, iatMode⟩ := o
    generalize get "cert" = published
    constructor
    · intro h
      split at h
      · cases h
        exact ⟨.missing, rfl⟩
      · cases h
        exact ⟨.null, rfl⟩
      · cases h
        exact ⟨.text _, rfl⟩
      · cases h
    · rintro ⟨hcert, hmode⟩
      obtain rfl : iatMode = scalar (get "iatMode") := hmode
      cases hcert <;> rfl

end TransportOptions

namespace TransportEntry

/-- What an element of a matrix publishes, as an object or as an array of one to four of its fields:
a type, which has to be a text, and other fields that may hold anything. -/
inductive Publishes : Json → (type : String) → (protocols ports options : Option Json) → Prop
  | object {ms : Json.Members} {type : String} (h : ms.get? "type" = some (.text type)) :
    Publishes (.object ms) type (ms.get? "protocols") (ms.get? "ports") (ms.get? "options")
  | array {type : String} {rest : List Json} (h : rest.length ≤ 3) :
    Publishes (.array (.text type :: rest)) type rest[0]? rest[1]? rest[2]?

/-- The element publishes a type. -/
def HasType (v : Json) : Prop := ∃ type protocols ports options,
  Publishes v type protocols ports options

/-- The entry as it is read. The transport is there if the type names one; the protocols are the
texts among their items, and the ports the texts and numbers among theirs; the options are there if
they can be read. -/
structure ReadFrom (e : TransportEntry) (type : String) (protocols ports options : Option Json) :
    Prop where
  transport : ∀ t, e.transport = some t ↔ t.name = type
  protocols : Lists IsText protocols e.protocols
  ports : Lists IsScalar ports e.ports
  options : ∀ o, e.options = some o ↔ ∃ v, options = some v ∧
    ∃ cert iatMode, TransportOptions.Publishes v cert iatMode ∧ o.ReadFrom cert iatMode

/-- The entry is read from this element. -/
def IsReadFrom (e : TransportEntry) (v : Json) : Prop := ∃ type protocols ports options,
  Publishes v type protocols ports options ∧ e.ReadFrom type protocols ports options

variable {v : Json} {e : TransportEntry} {type : String} {protocols ports options : Option Json}

/-- Each field is read on its own. -/
theorem readFrom_iff : e.ReadFrom type protocols ports options ↔ e = {
    transport := Transport.ofName? type
    protocols := texts protocols
    ports := scalars ports
    options := options.bind TransportOptions.ofJson? } := by
  have hoptions (o : TransportOptions) : options.bind TransportOptions.ofJson? = some o ↔
      ∃ v, options = some v ∧
        ∃ cert iatMode, TransportOptions.Publishes v cert iatMode ∧ o.ReadFrom cert iatMode := by
    rw [Option.bind_eq_some_iff]
    simp only [TransportOptions.ofJson?_eq_some_iff]
  constructor
  · intro h
    obtain ⟨transport, entryProtocols, entryPorts, entryOptions⟩ := e
    obtain rfl : transport = Transport.ofName? type :=
      Option.ext fun t => (h.transport t).trans Transport.ofName?_eq_some_iff.symm
    obtain rfl := lists_isText_iff.1 h.protocols
    obtain rfl := lists_isScalar_iff.1 h.ports
    obtain rfl : entryOptions = options.bind TransportOptions.ofJson? :=
      Option.ext fun o => (h.options o).trans (hoptions o).symm
    rfl
  · rintro rfl
    exact ⟨fun t => Transport.ofName?_eq_some_iff, lists_isText_iff.2 rfl, lists_isScalar_iff.2 rfl,
      hoptions⟩

/-- What a type and the other fields are looked up for. -/
theorem publishes_iff : Publishes v type protocols ports options ↔
    ∃ get, Json.IsRecord fieldNames v get ∧ get "type" = some (.text type) ∧
      get "protocols" = protocols ∧ get "ports" = ports ∧ get "options" = options := by
  constructor
  · rintro (⟨htype⟩ | ⟨hle⟩)
    · exact ⟨_, .object _, htype, rfl, rfl, rfl⟩
    · exact ⟨_, .array (Nat.succ_le_succ hle), rfl, rfl, rfl, rfl⟩
  · rintro ⟨get, ms | hle, htype, rfl, rfl, rfl⟩
    · exact .object htype
    · -- the type is the first of the items
      rename_i xs
      cases xs with
      | nil => cases htype
      | cons x rest =>
        cases htype
        exact .array (Nat.le_of_succ_le_succ hle)

theorem typeName_eq_ok_iff {get : String → Option Json} :
    typeName v get = .ok type ↔ get "type" = some (.text type) := by
  unfold typeName
  split <;> simp_all

/-- An element is read exactly if it publishes a type, and as an entry that is read from it. -/
theorem ofJson_eq_ok_iff : ofJson v = .ok e ↔ e.IsReadFrom v := by
  constructor
  · intro h
    obtain ⟨get, hget, h⟩ := bind_eq_ok_iff.1 h
    obtain ⟨type, htype, h⟩ := bind_eq_ok_iff.1 h
    obtain ⟨⟨⟩, hlength, h⟩ := bind_eq_ok_iff.1 h
    have hrecord : v.record fieldNames structName = .ok get := by
      rw [Json.record, hget, ok_bind, hlength]
      rfl
    exact ⟨type, _, _, _, publishes_iff.2 ⟨get, Json.record_eq_ok_iff.1 hrecord,
      typeName_eq_ok_iff.1 htype, rfl, rfl, rfl⟩, readFrom_iff.2 (Except.ok.inj h).symm⟩
  · rintro ⟨type, _, _, _, hpublishes, he⟩
    obtain ⟨get, hrecord, htype, rfl, rfl, rfl⟩ := publishes_iff.1 hpublishes
    have hrecord : v.record fieldNames structName = .ok get := Json.record_eq_ok_iff.2 hrecord
    obtain ⟨get', hget, h⟩ := bind_eq_ok_iff.1 hrecord
    obtain ⟨⟨⟩, hlength, h⟩ := bind_eq_ok_iff.1 h
    cases h
    rw [ofJson, hget, ok_bind, typeName_eq_ok_iff.2 htype, ok_bind, hlength, ok_bind,
      readFrom_iff.1 he]

theorem exists_ofJson_iff : (∃ e, ofJson v = .ok e) ↔ HasType v := by
  simp only [ofJson_eq_ok_iff]
  constructor
  · rintro ⟨e, type, protocols, ports, options, hpublishes, -⟩
    exact ⟨type, protocols, ports, options, hpublishes⟩
  · rintro ⟨type, protocols, ports, options, hpublishes⟩
    exact ⟨_, type, protocols, ports, options, hpublishes, readFrom_iff.2 rfl⟩

end TransportEntry

namespace Capability

variable {capabilities : Json} {ms : Json.Members} {xs : List Json} {entries : List TransportEntry}

/-- The capabilities have a matrix of these elements. -/
def HasMatrix (capabilities : Json) (xs : List Json) : Prop :=
  ∃ ms : Json.Members, capabilities = .object ms ∧ ms.get? "transport" = some (.array xs)

/-! ### What becomes of capabilities -/

theorem matrix_of_not_object (h : ∀ ms, capabilities ≠ .object ms) :
    matrix (some capabilities) = .error .missingCapabilities := by
  cases capabilities with
  | object ms => exact absurd rfl (h ms)
  | _ => rfl

theorem matrix_of_get?_eq_none (h : ms.get? "transport" = none) :
    matrix (some (.object ms)) = .error .missingTransports := by
  rw [matrix, h]

theorem matrix_of_not_array {v : Json} (h : ms.get? "transport" = some v)
    (hno : ∀ xs, v ≠ .array xs) : matrix (some (.object ms)) =
      .error (.malformed (.wrongType v.shape "a sequence")) := by
  rw [matrix, h]
  cases v with
  | array xs => exact absurd rfl (hno xs)
  | _ => rfl

theorem matrix_of_hasMatrix (h : HasMatrix capabilities xs) :
    matrix (some capabilities) = (xs.mapM TransportEntry.ofJson).mapError .malformed := by
  obtain ⟨ms, rfl, hxs⟩ := h
  rw [matrix, hxs]

/-- A matrix that has been read is the one of the capabilities. -/
theorem hasMatrix_of_matrix (h : matrix (some capabilities) = .ok entries) :
    ∃ xs, HasMatrix capabilities xs := by
  by_cases hobject : ∃ ms, capabilities = .object ms
  · obtain ⟨ms, rfl⟩ := hobject
    cases hv : Json.Members.get? ms "transport" with
    | none =>
      rw [matrix_of_get?_eq_none hv] at h
      cases h
    | some v =>
      by_cases harray : ∃ xs, v = .array xs
      · obtain ⟨xs, rfl⟩ := harray
        exact ⟨xs, ms, rfl, hv⟩
      · rw [matrix_of_not_array hv (not_exists.1 harray)] at h
        cases h
  · rw [matrix_of_not_object (not_exists.1 hobject)] at h
    cases h

/-- A matrix is read element by element. -/
theorem matrix_eq_ok_iff : matrix (some capabilities) = .ok entries ↔
    ∃ xs, HasMatrix capabilities xs ∧ List.Forall₂ (fun x e => e.IsReadFrom x) xs entries := by
  simp only [← TransportEntry.ofJson_eq_ok_iff, ← mapM_eq_ok_iff]
  constructor
  · intro h
    obtain ⟨xs, hxs⟩ := hasMatrix_of_matrix h
    rw [matrix_of_hasMatrix hxs, mapError_eq_ok_iff] at h
    exact ⟨xs, hxs, h⟩
  · rintro ⟨xs, hxs, hentries⟩
    rw [matrix_of_hasMatrix hxs, mapError_eq_ok_iff, hentries]

theorem exists_matrix_iff : (∃ entries, matrix (some capabilities) = .ok entries) ↔
    ∃ xs, HasMatrix capabilities xs ∧ ∀ x ∈ xs, TransportEntry.HasType x := by
  simp only [← TransportEntry.exists_ofJson_iff, ← exists_mapM_iff]
  constructor
  · rintro ⟨entries, h⟩
    obtain ⟨xs, hxs⟩ := hasMatrix_of_matrix h
    rw [matrix_of_hasMatrix hxs, mapError_eq_ok_iff] at h
    exact ⟨xs, hxs, entries, h⟩
  · rintro ⟨xs, hxs, entries, h⟩
    exact ⟨entries, by rw [matrix_of_hasMatrix hxs, mapError_eq_ok_iff, h]⟩

/-- One element without a type spoils a matrix. -/
theorem exists_malformed (h : HasMatrix capabilities xs)
    (hno : ¬ ∀ x ∈ xs, TransportEntry.HasType x) :
    ∃ cause, matrix (some capabilities) = .error (.malformed cause) := by
  simp only [← TransportEntry.exists_ofJson_iff, ← exists_mapM_iff] at hno
  rw [matrix_of_hasMatrix h]
  cases hxs : xs.mapM TransportEntry.ofJson with
  | ok entries => exact absurd ⟨entries, hxs⟩ hno
  | error cause => exact ⟨cause, rfl⟩

/-- What stands at a place of a matrix depends on the element at the place alone. -/
theorem getElem?_matrix (h : HasMatrix capabilities xs)
    (hentries : matrix (some capabilities) = .ok entries) (i : Nat) :
    entries[i]? = xs[i]?.bind fun x => (TransportEntry.ofJson x).toOption := by
  rw [matrix_of_hasMatrix h, mapError_eq_ok_iff] at hentries
  exact getElem?_of_mapM hentries i

/-- A matrix is read all or nothing. It is read exactly if the capabilities are an object with an
array under `transport`, all of whose elements publish a type: objects with a text in the field, or
arrays of one to four items that start with a text. There is an entry for every element then, in
their order, which is read from this element alone; its other fields are lenient. Capabilities that
are no object are missing, an object without the key has no transports, and in all other cases the
matrix is malformed. -/
theorem matrix_allOrNothing (capabilities : Json) :
    ((∃ entries, matrix (some capabilities) = .ok entries) ↔
      ∃ xs, HasMatrix capabilities xs ∧ ∀ x ∈ xs, TransportEntry.HasType x) ∧
    (∀ entries, matrix (some capabilities) = .ok entries ↔
      ∃ xs, HasMatrix capabilities xs ∧ List.Forall₂ (fun x e => e.IsReadFrom x) xs entries) ∧
    (∀ {capabilities' : Json} {xs xs' : List Json} {entries entries' : List TransportEntry},
      HasMatrix capabilities xs → matrix (some capabilities) = .ok entries →
      HasMatrix capabilities' xs' → matrix (some capabilities') = .ok entries' →
      ∀ i j : Nat, xs[i]? = xs'[j]? → entries[i]? = entries'[j]?) ∧
    ((∀ ms, capabilities ≠ .object ms) →
      matrix (some capabilities) = .error .missingCapabilities) ∧
    ∀ ms : Json.Members, capabilities = .object ms →
      (ms.get? "transport" = none → matrix (some capabilities) = .error .missingTransports) ∧
      ∀ v, ms.get? "transport" = some v →
        (¬ ∃ xs, v = .array xs ∧ ∀ x ∈ xs, TransportEntry.HasType x) →
        ∃ cause, matrix (some capabilities) = .error (.malformed cause) := by
  refine ⟨exists_matrix_iff, fun entries => matrix_eq_ok_iff, ?_, matrix_of_not_object, ?_⟩
  · intro _ _ _ _ _ hxs hentries hxs' hentries' i j hij
    rw [getElem?_matrix hxs hentries, getElem?_matrix hxs' hentries', hij]
  · rintro ms rfl
    refine ⟨matrix_of_get?_eq_none, fun v hv hno => ?_⟩
    by_cases harray : ∃ xs, v = .array xs
    · obtain ⟨xs, rfl⟩ := harray
      exact exists_malformed ⟨ms, rfl, hv⟩ fun hall => hno ⟨xs, rfl, hall⟩
    · exact ⟨_, matrix_of_not_array hv (not_exists.1 harray)⟩

/-! ### Elements of both forms -/

namespace Mixed

/-- An object of an unknown type, with items that are dropped and options that are none. -/
def unknown : Json := .object [("ports", .array [.number (.whole 443), .null, .text "http"]),
  ("type", .text "wireguard"), ("protocols", .array [.text "udp", .number (.whole 7)]),
  ("options", .array [.number (.whole 1)])]

/-- An array of all four fields, of which the second one is no list. -/
def listed : Json := .array [.text "obfs4", .text "tcp", .array [.text "23050"],
  .object [("iatMode", .number (.whole 1))]]

/-- An object without a type. -/
def nameless : Json := .object [("protocols", .array [.text "udp"])]

def ofElements (xs : List Json) : Json := .object [("transport", .array xs)]

/-- What the elements with a type are read as. -/
def read : List TransportEntry := [⟨none, ["udp"], ["443", "http"], none⟩,
  ⟨some .obfs4, [], ["23050"], some ⟨none, some "1"⟩⟩]

theorem hasMatrix (xs : List Json) : HasMatrix (ofElements xs) xs := ⟨_, rfl, rfl⟩

theorem not_hasType_nameless : ¬ TransportEntry.HasType nameless := by
  rintro ⟨type, protocols, ports, options, ⟨htype⟩⟩
  cases htype

end Mixed

/-- Two elements that are read, one of which is read alike without the other, and one without a type
that spoils the matrix. -/
theorem matrix_allOrNothing_mixed :
    matrix (some (Mixed.ofElements [Mixed.unknown, Mixed.listed])) = .ok Mixed.read ∧
      (∃ entries, matrix (some (Mixed.ofElements [Mixed.listed])) = .ok entries ∧
        entries[0]? = Mixed.read[1]?) ∧
      (∃ cause, matrix (some (Mixed.ofElements [Mixed.unknown, Mixed.nameless])) =
        .error (.malformed cause)) ∧
      matrix (some (.array [Mixed.unknown])) = .error .missingCapabilities := by
  have hread : matrix (some (Mixed.ofElements [Mixed.unknown, Mixed.listed])) =
      .ok Mixed.read := rfl
  obtain ⟨hexists, -, hplaces, -, -⟩ := matrix_allOrNothing (Mixed.ofElements [Mixed.listed])
  obtain ⟨-, -, -, -, hspoiled⟩ :=
    matrix_allOrNothing (Mixed.ofElements [Mixed.unknown, Mixed.nameless])
  obtain ⟨-, -, -, hmissing, -⟩ := matrix_allOrNothing (.array [Mixed.unknown])
  refine ⟨hread, ?_, ?_, hmissing nofun⟩
  · have htyped : ∀ x ∈ [Mixed.listed], TransportEntry.HasType x :=
      List.forall_mem_singleton.2 ⟨_, _, _, _, .array (by decide)⟩
    obtain ⟨entries, hentries⟩ := hexists.2 ⟨_, Mixed.hasMatrix _, htyped⟩
    exact ⟨entries, hentries,
      hplaces (Mixed.hasMatrix _) hentries (Mixed.hasMatrix _) hread 0 1 rfl⟩
  · refine (hspoiled _ rfl).2 _ rfl ?_
    rintro ⟨xs, hxs, hall⟩
    cases hxs
    exact Mixed.not_hasType_nameless (hall _ (by simp))

end Capability

end VpnDirectory
