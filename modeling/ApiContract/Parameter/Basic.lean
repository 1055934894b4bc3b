import ApiContract.Coerce
import ApiContract.Json.Printer
import ApiContract.Parameter.Candidate
import ApiContract.Request.Basic
import ApiContract.Schema.Document

/-! # Parameters

A parameter says where a value stands in a request and which type it must have.

* `Parameter.lookup` reads what is on the wire and nothing else.
* `Parameter.retrieve` also applies the default of a parameter that may be absent and refuses the
  absence of one that must be present.
* `Parameter.operationPart` is the parameter's object in an API description. -/

namespace ApiContract

/-- Where a parameter stands, with the name that it has there if that may differ from its own. -/
inductive Source
  | path
  | query
  | header (name : String)
  | cookie (name : String)
  deriving DecidableEq, Repr

/-- The location of a source. -/
def Source.location : Source → Location
  | .path => .path
  | .query => .query
  | .header _ => .header
  | .cookie _ => .cookie

/-- A declared parameter. -/
structure Parameter where
  /-- The name that the application knows. -/
  name : String
  source : Source
  type : Descriptor
  style : Style
  required : Bool
  description : Option String
  deprecated : Bool

namespace Parameter

/-- The location of a parameter. -/
def location (p : Parameter) : Location := p.source.location

/-- The name that a client knows. -/
def wireName (p : Parameter) : String :=
  match p.source with
  | .header name | .cookie name => name
  | .path | .query => p.name

/-- Whether the parameter stands in the query string. -/
def readsQuery (p : Parameter) : Bool := p.source == .query

/-- The property that a key of the form `name[property]` names. -/
def deepProperty? (name key : String) : Option String := do
  let rest ← Text.after? (name.toList ++ ['[']) key.toList
  let property ← Text.before? [']'] rest
  return String.ofList property

/-- The members that keys of the form `name[property]` give. -/
def deepMembers (name : String) (pairs : List (String × String)) : List (String × Json) :=
  pairs.filterMap fun (key, value) => (deepProperty? name key).map fun prop => (prop, .str value)

/-- Whether a key carries the parameter: its name, and for lists also its name with brackets. -/
def isKey (name : String) (isList : Bool) (key : String) : Bool :=
  key == name || (isList && key == name ++ "[]")

/-- The raw value of some texts, if there are any. -/
def rawOf : List String → Option RawValue
  | [] => none
  | [text] => some (.single text)
  | texts => some (.many texts)

/-- The raw value of a query parameter. -/
def queryRaw (p : Parameter) (pairs : List (String × String)) : Option RawValue :=
  let members := if p.style = .deepObject then deepMembers p.name pairs else []
  if members.isEmpty then
    let isList := p.type.collectionElement?.isSome
    rawOf ((pairs.filter fun (key, _) => isKey p.name isList key).map Prod.snd)
  else some (.single (Json.object members).compact)

/-- The raw value of a parameter. -/
def raw (p : Parameter) (view : RequestView) (captures : Captures) :
    Except ParameterError (Option RawValue) :=
  match p.source with
  | .path => .ok ((capture? captures p.name).map .single)
  | .query => view.pairs.map p.queryRaw
  | .header name => .ok ((view.header (Header.transportKey name)).map .single)
  | .cookie name => .ok ((view.cookie name).map .single)

/-- The value of a raw one. -/
def readRaw (c : Catalog) (p : Parameter) (raw : RawValue) : Except ParameterError Json :=
  (p.type.coerce c (candidate raw p.type p.style)).mapError (.unparseable p.wireName p.location)

/-- The value on the wire, if there is one. -/
def lookup (c : Catalog) (p : Parameter) (view : RequestView) (captures : Captures) :
    Except ParameterError (Option Json) := do
  match ← p.raw view captures with
  | some raw => return some (← p.readRaw c raw)
  | none => return none

/-- The value of the parameter.  A parameter that must be present has no default. -/
def retrieve (c : Catalog) (p : Parameter) (view : RequestView) (captures : Captures) :
    Except ParameterError (Option Json) := do
  match ← p.lookup c view captures with
  | some value => return some value
  | none =>
    if p.required then throw (.missing p.wireName p.location) else return p.type.defaultValue?

/-- The object that describes the parameter. -/
def operationPart (r : Registry) (c : Catalog) (p : Parameter) : Compiler Json := do
  let schema ← Compiler.fragment r c p.type
  return .object <|
    [("name", .str p.wireName), ("in", .str p.location.name), ("required", .bool p.required)] ++
    (p.description.map fun text => ("description", Json.str text)).toList ++
    (if p.deprecated then [("deprecated", .bool true)] else []) ++
    (if p.style = p.location.defaultStyle then [] else [("style", .str p.style.name)]) ++
    [("schema", schema)]

end Parameter
end ApiContract
