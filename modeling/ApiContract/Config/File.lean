import ApiContract.Config
import ApiContract.Text.Utf8
import ApiContract.Yaml.Flat
import ApiContract.Yaml.Scalar

/-! # Configuration files

Settings are written as a flat YAML document: a mapping with the keys `max_query_params` and
`openapi_version`, each at most once.  What is left out has its default; a blank text and an empty
document leave out everything. -/

namespace ApiContract.Config

open Yaml (Scalar Flat)

/-- The tag of integers. -/
def integerTag : Yaml.Tag := Utf8.encode "tag:yaml.org,2002:int".toList

/-- The count that a scalar denotes: a plain one, or a literal block that is tagged as integer. -/
def countOf? (s : Scalar) : Option Nat :=
  if s.presentation = .plain ∨ (s.presentation = .literal ∧ s.tag = some integerTag) then
    Yaml.unsigned? s.text
  else none

/-- The settings that a text gives. -/
structure Given where
  maxQueryParams : Option Nat
  openapiVersion : Option String
  deriving DecidableEq, Repr

namespace Given

/-- None is given. -/
def none : Given := ⟨.none, .none⟩

/-- Takes an entry in; no key may occur twice. -/
def add? (g : Given) (entry : Scalar × Scalar) : Option Given :=
  match entry.1.text, g.maxQueryParams, g.openapiVersion with
  | "max_query_params", .none, _ =>
    (countOf? entry.2).map fun n => { g with maxQueryParams := some n }
  | "openapi_version", _, .none => some { g with openapiVersion := some entry.2.text }
  | _, _, _ => .none

/-- The settings, with the defaults for those that are not given. -/
def complete (g : Given) : Config :=
  ⟨g.maxQueryParams.getD default.maxQueryParams, g.openapiVersion.getD default.openapiVersion⟩

end Given

/-- The settings that a document describes. -/
def ofFlat? : Flat Scalar → Option Config
  | .scalar s => if s.presentation = .plain ∧ s.text = "" then some default else none
  | .mapping _ entries => (entries.foldlM Given.add? Given.none).map Given.complete

/-- The settings that a text describes. -/
def ofYaml (text : String) : Except ConfigError Config :=
  if (Text.trim text.toList).isEmpty then .ok default
  else
    match (Flat.parse? text).bind ofFlat? with
    | none => .error .malformed
    | some c => c.check.map fun _ => c

/-- The settings in a file with a given path; `none` stands for a file that does not exist. -/
def ofFile (path : String) (bytes : Option (List UInt8)) : Except ConfigError Config :=
  match bytes.bind Utf8.decode? with
  | none => .error (.unreadable path)
  | some cs => (ofYaml (String.ofList cs)).mapError (.inFile path)

end ApiContract.Config
