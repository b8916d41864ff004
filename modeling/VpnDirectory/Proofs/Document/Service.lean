import VpnDirectory.Document.Service
import VpnDirectory.Proofs.Document.Whole
import VpnDirectory.Proofs.Json.Outline

/-!
# Whole numbers of a service document

The version and the serial number of a provider and the time zones of its locations may each be
written as a number or as a text.

* `Service.exists_outline_of_parse` : a service document that is read is made of the fields of the
  value that its text has.
* `Service.WholeField`, `Service.Publishes` : the fields that hold whole numbers, and what stands in
  them in a document.
* `Service.decoded_number_eq_text_iff` : where the two ways of writing a number mean the same.
-/

namespace VpnDirectory

open Json (IsRecord)

namespace Service

/-! ### Fields -/

/-- The service document whose fields hold these values. -/
def ofFields (get : String → Option Json) : Service where
  gateways := Lenient.items (get "gateways")
  locations := Lenient.members (get "locations")
  directives := Lenient.members (get "openvpn_configuration")
  serial := Lenient.whole (get "serial")
  version := Lenient.whole (get "version")

theorem read_lenient (name : String) (store : Service → Option Json → Service) (s : Service)
    (depth : Nat) (ts : List Json.Token) : (lenient name store).read s depth ts =
      (Json.Reader.value depth ts).map fun r => (store s (some r.1), r.2) := by
  cases h : Json.Reader.value depth ts <;> simp [lenient, Json.Field.of, h, Except.map]

theorem isLenient_fields : Json.IsLenient fields ofFields where
  read hf get depth ts := by
    simp only [fields, List.mem_cons, List.not_mem_nil, or_false] at hf
    rcases hf with rfl | rfl | rfl | rfl | rfl <;> rw [read_lenient] <;>
      simp [ofFields, lenient, Json.Field.of, Json.setField]
  congr h := by
    simp only [fields, List.forall_mem_cons] at h
    obtain ⟨hgateways, hlocations, hdirectives, hserial, hversion, -⟩ := h
    simp only [lenient, Json.Field.of] at hgateways hlocations hdirectives hserial hversion
    rw [ofFields, hgateways, hlocations, hdirectives, hserial, hversion]
    rfl
  nodup := by decide

/-- The fields of a service document. -/
def fieldNames : List String := fields.map (·.name)

/-- A service document is made of the fields of the value that its text has. -/
theorem exists_outline_of_parse {text : String} {s : Service} (h : parse text = .ok s) :
    ∃ doc get, Json.outline? text = some doc ∧ IsRecord fieldNames doc get ∧ s = ofFields get :=
  Json.exists_outline_of_parseRecord isLenient_fields h

/-! ### Whole numbers -/

/-- The fields of a service document that hold whole numbers of 32 bits. -/
inductive WholeField
  | version
  | serial
  /-- The time zone of the location with this key. -/
  | timezone (key : String)

/-- The number that the field has been read as. -/
def decoded (s : Service) : WholeField → Int
  | .version => s.version
  | .serial => s.serial
  | .timezone key => (s.location key).timezone

/-- The value stands in the field of the document. -/
inductive Publishes (doc : Json) : WholeField → Json → Prop
  | version {get : String → Option Json} {v : Json} (hdoc : IsRecord fieldNames doc get)
    (hv : get "version" = some v) : Publishes doc .version v
  | serial {get : String → Option Json} {v : Json} (hdoc : IsRecord fieldNames doc get)
    (hv : get "serial" = some v) : Publishes doc .serial v
  | timezone {get field : String → Option Json} {locations : Json.Members} {key : String}
    {place v : Json} (hdoc : IsRecord fieldNames doc get)
    (hlocations : get "locations" = some (.object locations))
    (hplace : locations.get? key = some place)
    (hfields : IsRecord LocationEntry.fieldNames place field) (hv : field "timezone" = some v) :
    Publishes doc (.timezone key) v

/-- The text is a service document with the value in the field, and is read. -/
def ReadsWith (text : String) (f : WholeField) (v : Json) (s : Service) : Prop :=
  parse text = .ok s ∧ ∃ doc, Json.outline? text = some doc ∧ Publishes doc f v

variable {text text' : String} {f : WholeField} {v number : Json} {s s' : Service} {n : Int}
  {digits : String}

/-- A field is read from the value that stands in it. -/
theorem ReadsWith.decoded_eq (h : ReadsWith text f v s) : s.decoded f = Lenient.whole (some v) := by
  obtain ⟨hparse, doc, hdoc, hv⟩ := h
  obtain ⟨doc', get, hdoc', hget, rfl⟩ := exists_outline_of_parse hparse
  obtain rfl : doc = doc' := Option.some.inj (hdoc.symm.trans hdoc')
  cases hv with
  | version hget' hv =>
    obtain rfl := hget.unique hget'
    exact congrArg Lenient.whole hv
  | serial hget' hv =>
    obtain rfl := hget.unique hget'
    exact congrArg Lenient.whole hv
  | @timezone _ field locations key place _ hget' hlocations hplace hfields hv =>
    obtain rfl := hget.unique hget'
    have hmembers : (ofFields get).locations = locations := by
      simp only [ofFields, hlocations, Lenient.members]
    have hrecord : place.record LocationEntry.fieldNames "location" = .ok field :=
      Json.record_eq_ok_iff.2 hfields
    show ((ofFields get).location key).timezone = _
    rw [location, hmembers, hplace]
    dsimp only
    rw [LocationEntry.ofJson, hrecord]
    exact congrArg Lenient.whole hv

/-- A whole number of any size in a field of a service document, written as a number in one
document and spelled by a text in another: as a number it counts as zero beyond 32 bits, while the
text counts as the nearest number of 32 bits. They mean the same exactly up to 32 bits. -/
theorem decoded_number_eq_text_iff (hnumber : ReadsWith text f number s)
    (hn : Json.parse (toString n) = .ok number) (htext : ReadsWith text' f (.text digits) s')
    (hdigits : IsSpelling n digits) :
    s.decoded f = (Range.int32.check n).getD 0 ∧ s'.decoded f = Range.int32.nearest n ∧
      (s.decoded f = s'.decoded f ↔ Range.int32.contains n) := by
  obtain ⟨m, hm, rfl⟩ := Json.parse_toString_eq_ok_iff.1 hn
  rw [hnumber.decoded_eq, htext.decoded_eq]
  exact ⟨Lenient.whole_number hm, Lenient.whole_text hdigits,
    Lenient.whole_number_eq_whole_text_iff hm hdigits⟩

theorem decoded_number_eq_text_three : ∃ s s' : Service,
    ReadsWith "\x7b\"version\": 3\x7d" .version (.number (.whole 3)) s ∧
      ReadsWith "\x7b\"version\": \"+3\"\x7d" .version (.text "+3") s' ∧
      s.decoded .version = 3 ∧ s'.decoded .version = 3 := by
  let doc (v : Json) : Json := .object [("version", v)]
  let published (v : Json) : Publishes (doc v) .version v := .version (.object _) rfl
  have hnumber : ReadsWith "\x7b\"version\": 3\x7d" .version (.number (.whole 3))
      { version := 3 } :=
    ⟨by with_unfolding_all rfl, _, by with_unfolding_all rfl, published _⟩
  have htext : ReadsWith "\x7b\"version\": \"+3\"\x7d" .version (.text "+3") { version := 3 } :=
    ⟨by with_unfolding_all rfl, _, by with_unfolding_all rfl, published _⟩
  have hn : Json.parse (toString (3 : Int)) = .ok (.number (.whole 3)) := by with_unfolding_all rfl
  have hdigits : IsSpelling 3 "+3" := .plus (by decide)
  obtain ⟨hleft, hright, -⟩ := decoded_number_eq_text_iff hnumber hn htext hdigits
  exact ⟨_, _, hnumber, htext, hleft, hright⟩

/-- One above the largest number of 32 bits is the version zero as a number, and the largest one as
a text. -/
theorem decoded_number_ne_text :
    (parse "\x7b\"version\": 2147483648\x7d").toOption.map (·.version) = some 0 ∧
      (parse "\x7b\"version\": \"2147483648\"\x7d").toOption.map (·.version) =
        some 2147483647 := by
  decide +kernel

end Service

end VpnDirectory
