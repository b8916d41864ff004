import VpnDirectory.Document.Lenient

/-!
# The service document of a provider

`Service` holds the gateway entries as they were published, the locations by key and the general
directives of every profile, in document order. `Service.location` looks a location up.
-/

namespace VpnDirectory

/-- A place where gateways stand. -/
structure LocationEntry where
  name : String := ""
  countryCode : String := ""
  hemisphere : String := ""
  /-- Hours ahead of universal time. -/
  timezone : Int := 0
  deriving DecidableEq, Repr

namespace LocationEntry

/-- The fields in order. -/
def fieldNames : List String := ["name", "country_code", "hemisphere", "timezone"]

/-- Reads a location; a value that is no location gives the empty one. -/
def ofJson (v : Json) : LocationEntry :=
  match v.record fieldNames "location" with
  | .error _ => {}
  | .ok get => {
      name := Lenient.text (get "name")
      countryCode := Lenient.text (get "country_code")
      hemisphere := Lenient.text (get "hemisphere")
      timezone := Lenient.whole (get "timezone") }

end LocationEntry

/-- The service document of a provider. -/
structure Service where
  /-- The entries as published; each is read on its own. -/
  gateways : List Json := []
  /-- Locations by key. -/
  locations : Json.Members := []
  /-- General directives in document order. -/
  directives : Json.Members := []
  serial : Int := 0
  /-- The version decides how gateway entries are read. -/
  version : Int := 0

namespace Service

/-- A field that takes what it can from any value. -/
def lenient (name : String) (store : Service → Option Json → Service) : Json.Field Service :=
  .of name Json.Reader.value fun s v => store s (some v)

/-- The fields in order. -/
def fields : List (Json.Field Service) := [
  lenient "gateways" fun s v => { s with gateways := Lenient.items v },
  lenient "locations" fun s v => { s with locations := Lenient.members v },
  lenient "openvpn_configuration" fun s v => { s with directives := Lenient.members v },
  lenient "serial" fun s v => { s with serial := Lenient.whole v },
  lenient "version" fun s v => { s with version := Lenient.whole v }]

/-- Reads a service document. -/
def parse (text : String) : Except Json.ReadError Service :=
  Json.parseRecord fields "struct EipService" {} text

/-- The location of a key; a key that is not there has the empty location. -/
def location (s : Service) (key : String) : LocationEntry :=
  match s.locations.get? key with
  | some v => .ofJson v
  | none => {}

end Service

end VpnDirectory
