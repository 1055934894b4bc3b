import ApiContract.Body
import ApiContract.Request.QueryCache
import ApiContract.Security.Scheme

/-! # Endpoints

An endpoint is one operation: a method on a path, with parameters, a body, security schemes and
responses.

`Endpoint.validate` first asks the schemes in order; the first that accepts wins, and an endpoint with
no scheme is open.  Then it reads all parameters and the body and refuses the request with the
violations of all of them.  All descriptors look at the request through one query cache.  Predicates
may ask it too, which is not recorded: no descriptor could tell (`QueryCache.view_after`). -/

namespace ApiContract

/-- A documented response. -/
structure Response where
  description : String
  type : Option Descriptor
  contentType : String

/-- The object that describes a response. -/
def Response.operationPart (r : Registry) (c : Catalog) (resp : Response) : Compiler Json := do
  match resp.type with
  | none => return .object [("description", .str resp.description)]
  | some ty =>
    let schema ← Compiler.fragment r c ty
    return .object [("description", .str resp.description),
      ("content", contentObject resp.contentType schema)]

/-- The responses of an operation, by increasing status, one for each. -/
abbrev Responses := List (Nat × Response)

/-- Sets the response for a status. -/
def Responses.insert (status : Nat) (response : Response) : Responses → Responses
  | [] => [(status, response)]
  | (s, r) :: rest =>
    if status < s then (status, response) :: (s, r) :: rest
    else if status = s then (status, response) :: rest
    else (s, r) :: insert status response rest

/-- One operation: a method on a path. -/
structure Endpoint where
  method : String
  path : String
  operationId : Option String
  summary : Option String
  description : Option String
  tags : List String
  parameters : List Parameter
  body : Option Body
  /-- The schemes, any of which may accept. -/
  security : List Scheme
  responses : Responses
  deprecated : Bool

/-- A request that has been let in. -/
structure ValidatedRequest where
  /-- The values of the parameters, by the name that the application knows. -/
  params : Dict Json
  body : Option Json
  /-- What the accepting scheme's predicate left. -/
  extensions : Extensions

/-- The answer of the schemes: what the accepting one's predicate left, or a refusal; and the names
of the schemes whose predicates were run, in order. -/
structure Authorization where
  outcome : Except Rejection Extensions
  consulted : List String
  /-- The query cache as the schemes leave it. -/
  cache : QueryCache

/-- The answer to a request, and the names of the schemes whose predicates were run, in order. -/
structure Validation where
  outcome : Except Rejection ValidatedRequest
  consulted : List String

namespace Endpoint

/-- What tells the parameters of an endpoint apart. -/
def parameterKeys (e : Endpoint) : List (Location × String) :=
  e.parameters.map fun p => (p.location, p.wireName)

/-- The first key that has been there before. -/
def firstRepeated? : List (Location × String) → List (Location × String) → Option (Location × String)
  | _, [] => none
  | seen, key :: keys => if key ∈ seen then some key else firstRepeated? (key :: seen) keys

/-- Refuses two parameters of one location with one name. -/
def check (e : Endpoint) : Except SetupError Unit :=
  match firstRepeated? [] e.parameterKeys with
  | some (location, name) => .error (.duplicateParameter location name)
  | none => .ok ()

/-- Asks schemes in order, each in a context of its own, until one accepts or is at fault.  `tried`
are all schemes of the endpoint, `consulted` those whose predicates have been run. -/
def askSchemes (c : Catalog) (captures : Captures) (services : Extensions) (tried : List String) :
    QueryCache → List Scheme → List String → Authorization
  | cache, [], consulted => ⟨.error (.unauthorized tried), consulted, cache⟩
  | cache, s :: schemes, consulted =>
    let result := s.validate c (.fresh cache.view captures services)
    let consulted := if result.consulted then consulted ++ [s.name] else consulted
    let cache := cache.after s.readsQuery
    match result.verdict with
    | .error fault => ⟨.error (.fault fault), consulted, cache⟩
    | .ok true => ⟨.ok result.context.extensions, consulted, cache⟩
    | .ok false => askSchemes c captures services tried cache schemes consulted

/-- The answer of the endpoint's schemes. -/
def authorize (c : Catalog) (e : Endpoint) (cache : QueryCache) (captures : Captures)
    (services : Extensions) : Authorization :=
  if e.security.isEmpty then ⟨.ok Dict.empty, [], cache⟩
  else askSchemes c captures services (e.security.map Scheme.name) cache e.security []

/-- The value of each parameter, with its name. -/
def readParameters (c : Catalog) (captures : Captures) :
    QueryCache → List Parameter → List (String × Except ParameterError (Option Json))
  | _, [] => []
  | cache, p :: parameters =>
    (p.name, p.retrieve c cache.view captures) ::
      readParameters c captures (cache.after p.readsQuery) parameters

/-- The value of the body. -/
def readBody (c : Catalog) (e : Endpoint) (view : RequestView) : Except BodyError (Option Json) :=
  match e.body with
  | some b => b.validate c view.body
  | none => .ok none

/-- The values of the parameters that have one. -/
def found (results : List (String × Except ParameterError (Option Json))) : List (String × Json) :=
  results.filterMap fun (name, result) =>
    match result with
    | .ok (some value) => some (name, value)
    | _ => none

/-- The violations of the parameters that have some. -/
def parameterViolations (results : List (String × Except ParameterError (Option Json))) :
    List Violation :=
  results.flatMap fun (_, result) =>
    match result with
    | .error e => e.violations
    | .ok _ => []

/-- The violations of a body, if it has some. -/
def bodyViolations : Except BodyError (Option Json) → List Violation
  | .error e => e.violations
  | .ok _ => []

/-- Reads all parameters and the body. -/
def readRequest (c : Catalog) (e : Endpoint) (cache : QueryCache) (captures : Captures)
    (extensions : Extensions) : Except Rejection ValidatedRequest :=
  let results := readParameters c captures cache e.parameters
  let body := e.readBody c cache.view
  match parameterViolations results ++ bodyViolations body with
  | [] => .ok ⟨Dict.ofList (found results), body.toOption.join, extensions⟩
  | violations => .error (.invalid violations)

/-- Authorizes and reads a request. -/
def validate (c : Catalog) (e : Endpoint) (view : RequestView) (captures : Captures)
    (services : Extensions) : Validation :=
  let authorization := e.authorize c (.new view) captures services
  ⟨authorization.outcome >>= e.readRequest c authorization.cache captures, authorization.consulted⟩

/-! ### The operation object -/

/-- A member with a text, if there is one. -/
def textMember (key : String) (text : Option String) : List (String × Json) :=
  (text.map fun text => (key, Json.str text)).toList

/-- The objects of the responses; without one there is a default response. -/
def responsesPart (r : Registry) (c : Catalog) (responses : Responses) : Compiler Json := do
  let members ← responses.mapM fun (status, response) => do
    return (toString status, ← response.operationPart r c)
  if members.isEmpty then
    return .object [("default", .object [("description", .str "Default response")])]
  else return .object members

/-- The object that describes the endpoint. -/
def operation (r : Registry) (c : Catalog) (e : Endpoint) : Compiler Json := do
  let parameters ← e.parameters.mapM (Parameter.operationPart r c)
  let body ← e.body.mapM (Body.operationPart r c)
  let responses ← responsesPart r c e.responses
  return .object <|
    textMember "operationId" e.operationId ++ textMember "summary" e.summary ++
    textMember "description" e.description ++
    (if e.tags.isEmpty then [] else [("tags", .arr (e.tags.map .str))]) ++
    (if e.deprecated then [("deprecated", .bool true)] else []) ++
    (if parameters.isEmpty then [] else [("parameters", .arr parameters)]) ++
    (body.map fun part => ("requestBody", part)).toList ++
    [("responses", responses)] ++
    (if e.security.isEmpty then []
      else [("security", .arr (e.security.map fun s => .object [(s.name, .arr [])]))])

end Endpoint
end ApiContract
