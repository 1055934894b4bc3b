/-! # Errors of a description

What can be wrong with a description itself, before any request: found when it is assembled or when
its schemas are compiled. -/

namespace ApiContract

/-- Where a parameter is read from. -/
inductive Location
  | path
  | query
  | header
  | cookie
  deriving DecidableEq, Repr

namespace Location

/-- The name of a location. -/
def name : Location → String
  | .path => "path"
  | .query => "query"
  | .header => "header"
  | .cookie => "cookie"

end Location

/-- A mistake in a description. -/
inductive SetupError
  /-- A leaf that the registry has no fragment for. -/
  | unknownLeaf (leaf : String)
  /-- Two structs of different origin with one name. -/
  | duplicateName (name existing conflicting : String)
  /-- An API key in a parameter that must be present. -/
  | requiredApiKey (scheme parameter : String)
  /-- A leaf name that cannot be registered. -/
  | invalidLeafName (leaf : String)
  /-- A fragment that is not an object. -/
  | invalidFragment (leaf : String)
  /-- A reference to a struct that is gone. -/
  | danglingReference
  /-- Two parameters with one name in one location. -/
  | duplicateParameter (location : Location) (name : String)
  deriving DecidableEq, Repr

namespace SetupError

/-- The text of a mistake. -/
def message : SetupError → String
  | .unknownLeaf leaf =>
    "unrecognized literal type '" ++ leaf ++ "': register it in the type registry"
  | .duplicateName name existing conflicting =>
    "duplicate schema name '" ++ name ++ "': '" ++ conflicting ++ "' collides with '" ++ existing ++
      "'. Supply an explicit schema name for one of them."
  | .requiredApiKey scheme parameter =>
    "API key scheme '" ++ scheme ++ "' uses required parameter '" ++ parameter ++
      "'. Declare it with required = false; missing credentials are handled by the security layer."
  | .invalidLeafName leaf => "'" ++ leaf ++ "' is not a valid terminal type identity"
  | .invalidFragment leaf => "schema fragment registered for '" ++ leaf ++ "' must be a JSON object"
  | .danglingReference => "recursive struct reference points to a dropped struct descriptor"
  | .duplicateParameter location name =>
    location.name ++ " parameter '" ++ name ++ "' is declared more than once"

end SetupError
end ApiContract
