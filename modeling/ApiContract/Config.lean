import ApiContract.Text.Blank

/-! # Configuration

Two settings: how many pairs of a query string are read, and the version of the description format
that documents name.  Both have defaults.  Settings from the environment replace them where they can
be read; settings from a text must be valid (`Config.check`). -/

namespace ApiContract

/-- The settings. -/
structure Config where
  maxQueryParams : Nat
  openapiVersion : String
  deriving DecidableEq, Repr

/-- Why no settings are obtained. -/
inductive ConfigError
  /-- The text does not describe settings. -/
  | malformed
  /-- No pair of a query string would be read. -/
  | zeroQueryParams
  /-- The version is empty. -/
  | emptyVersion
  /-- A file cannot be read as text. -/
  | unreadable (path : String)
  /-- The text of a file is at fault. -/
  | inFile (path : String) (cause : ConfigError)
  deriving DecidableEq, Repr

/-- The text of an error. -/
def ConfigError.message : ConfigError → String
  | .malformed => "failed to parse toolkit config"
  | .zeroQueryParams => "max_query_params must be greater than zero"
  | .emptyVersion => "openapi_version must not be empty"
  | .unreadable path => "failed to read toolkit config " ++ path
  | .inFile path cause => "invalid toolkit config " ++ path ++ ": " ++ cause.message

namespace Config

/-- The settings where nothing else is said. -/
def default : Config := ⟨10000, "3.0.3"⟩

instance : Inhabited Config := ⟨default⟩

/-- Refuses settings under which nothing would work. -/
def check (c : Config) : Except ConfigError Unit :=
  if c.maxQueryParams = 0 then .error .zeroQueryParams
  else if c.openapiVersion.isEmpty then .error .emptyVersion
  else .ok ()

/-- A number below `2 ^ 64` with an optional plus sign, in digits that `read?` understands. -/
def unsigned64? (read? : List Char → Option Nat) (cs : List Char) : Option Nat :=
  let digits := match cs with
    | '+' :: rest => rest
    | cs => cs
  (read? digits).filter (· < 1 <<< 64)

/-- A number in decimal digits, or in hexadecimal ones after `0x`. -/
def readCount? (text : String) : Option Nat :=
  match text.toList with
  | '0' :: 'x' :: digits => unsigned64? Text.hexNumber? digits
  | digits => unsigned64? Text.decimal? digits

/-- The settings that two variables of the environment give.  A count that is not a positive number
is ignored. -/
def ofEnvironment (maxQueryParams openapiVersion : Option String) : Config :=
  { maxQueryParams := ((maxQueryParams.bind readCount?).filter (0 < ·)).getD default.maxQueryParams
    openapiVersion := openapiVersion.getD default.openapiVersion }

end Config
end ApiContract
