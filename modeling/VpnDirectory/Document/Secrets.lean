import VpnDirectory.Json.Record

/-!
# The secrets of a client

`Secrets` holds the certificates and the key that every profile carries. Unlike the other documents
this one is strict: each field has to be a text.
-/

namespace VpnDirectory

/-- Certificates and key of a client, in text form. -/
structure Secrets where
  caCert : String := ""
  privateKey : String := ""
  vpnCertificate : String := ""
  deriving DecidableEq, Repr

namespace Secrets

/-- The fields in order. -/
def fields : List (Json.Field Secrets) := [
  .of "ca_cert" Json.Reader.text fun s v => { s with caCert := v },
  .of "provider_private_key" Json.Reader.text fun s v => { s with privateKey := v },
  .of "provider_vpn_certificate" Json.Reader.text fun s v => { s with vpnCertificate := v }]

/-- Reads the secrets of a client. -/
def parse (text : String) : Except Json.ReadError Secrets :=
  Json.parseRecord fields "struct Secrets" {} text

end Secrets

end VpnDirectory
