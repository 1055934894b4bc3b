import ApiContract.Coerce
import ApiContract.RequestError
import ApiContract.Schema.Document

/-! # Request bodies

A body arrives decoded; what is left is whether it is there and whether it has its type. -/

namespace ApiContract

/-- The usual media type. -/
def jsonContentType : String := "application/json"

/-- A declared request body. -/
structure Body where
  type : Descriptor
  required : Bool
  description : Option String
  contentType : String

/-- A body of one media type with its schema. -/
def contentObject (contentType : String) (schema : Json) : Json :=
  .object [(contentType, .object [("schema", schema)])]

namespace Body

/-- The value of a body, if there is one, or every violation. -/
def validate (c : Catalog) (b : Body) : Option Json → Except BodyError (Option Json)
  | none => if b.required then .error .missing else .ok none
  | some v => ((b.type.coerce c v).mapError .invalid).map some

/-- The object that describes the body. -/
def operationPart (r : Registry) (c : Catalog) (b : Body) : Compiler Json := do
  let schema ← Compiler.fragment r c b.type
  return .object <|
    (b.description.map fun text => ("description", Json.str text)).toList ++
    [("required", .bool b.required), ("content", contentObject b.contentType schema)]

end Body
end ApiContract
