import VpnDirectory.Capability

/-!
# What can be wrong with a tunnel configuration

`ConfigError` covers the reading of a configuration text, its conversion to a profile and the
drawing up of a text for a gateway. `ConfigError.message` has the wording.
-/

namespace VpnDirectory

/-- Why there is no configuration or no profile. -/
inductive ConfigError
  /-- The capability matrix cannot be read. -/
  | capabilities (version : Int) (cause : CapabilityError)
  | unterminatedBlock (tag : String)
  | unexpectedClosingTag (line : Nat) (tag : String)
  | missingArgument (directive : String)
  | invalidPort (port : String)
  | missingTransportOptions (transport : Transport)
  | missingField (name : String)

namespace ConfigError

/-- The error in words. -/
def message : ConfigError → String
  | capabilities version cause =>
    "Api version (" ++ toString version ++ ") did not match required JSON fields: " ++
      cause.message
  | unterminatedBlock tag => "Unterminated inline block <" ++ tag ++ ">"
  | unexpectedClosingTag line tag =>
    "Unexpected closing tag </" ++ tag ++ "> on line " ++ toString line
  | missingArgument directive => "Missing argument for " ++ directive
  | invalidPort port => "Invalid port: " ++ port
  | missingTransportOptions transport => "Missing " ++ transport.name ++ " transport options"
  | missingField name => "Missing transport field: " ++ name

end ConfigError

end VpnDirectory
