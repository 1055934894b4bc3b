import ApiContract.Endpoint

/-! # API documents

An API document collects the operations of its endpoints by path and method.  The structs of all
endpoints share one catalog of schemas, and the security schemes are listed by name.  Of two endpoints
with one path and method, and of two schemes with one name, the last counts. -/

namespace ApiContract

/-- The description of an API. -/
structure ApiDocument where
  title : String
  version : String
  description : Option String
  servers : List String
  endpoints : List Endpoint

namespace ApiDocument

/-- Operations by path and method, and security schemes by name. -/
structure Collected where
  paths : Dict (Dict Json)
  schemes : Dict Json

namespace Collected

/-- Nothing collected. -/
def empty : Collected := ⟨Dict.empty, Dict.empty⟩

/-- Adds the operation of an endpoint and its schemes. -/
def add (col : Collected) (e : Endpoint) (operation : Json) : Collected :=
  let item := (col.paths.get? e.path).getD Dict.empty
  { paths := col.paths.insert e.path (item.insert (Text.lowerAscii e.method) operation)
    schemes := col.schemes.insertAll (e.security.map fun s => (s.name, s.toJson)) }

/-- The operations as an object. -/
def pathsJson (col : Collected) : Json :=
  .obj (col.paths.entries.map fun (path, item) => (path, Json.ofDict item))

end Collected

/-- Collects the operations of endpoints, each of which is checked first. -/
def collect (r : Registry) (c : Catalog) : List Endpoint → Collected → Compiler Collected
  | [], col => return col
  | e :: endpoints, col => do
    match e.check with
    | .error mistake => throw mistake
    | .ok () =>
      let operation ← e.operation r c
      collect r c endpoints (col.add e operation)

/-- The general information. -/
def info (d : ApiDocument) : Json :=
  .object <| [("title", .str d.title), ("version", .str d.version)] ++
    Endpoint.textMember "description" d.description

/-- What the operations share. -/
def components (schemas : Document) (schemes : Dict Json) : Json :=
  .object <| [("schemas", schemas.toJson)] ++
    if schemes.isEmpty then [] else [("securitySchemes", Json.ofDict schemes)]

/-- The whole document, for a version of the description format. -/
def assemble (openapi : String) (d : ApiDocument) (col : Collected) (schemas : Document) : Json :=
  .object <|
    [("openapi", .str openapi), ("info", d.info)] ++
    (if d.servers.isEmpty then []
      else [("servers", .arr (d.servers.map fun url => .object [("url", .str url)]))]) ++
    [("paths", col.pathsJson), ("components", components schemas col.schemes)]

/-- The document of an API, if its endpoints can be collected. -/
def build (openapi : String) (r : Registry) (c : Catalog) (d : ApiDocument) :
    Except SetupError Json :=
  match (collect r c d.endpoints Collected.empty).run.run Document.empty with
  | (.error mistake, _) => .error mistake
  | (.ok col, schemas) => .ok (d.assemble openapi col schemas)

end ApiDocument
end ApiContract
