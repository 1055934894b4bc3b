import ApiContract.Parameter.Basic
import ApiContract.Security.Credential

/-! # Security schemes

A scheme finds a credential in a request and asks a predicate about it.  The predicate may be any
function of what the scheme knows; it may leave values for the application, and it may fail, either
with the credential or with the means to check it.

`Scheme.validate` runs the predicate at most once, and not at all without a credential. -/

namespace ApiContract

/-- Values by kind, at most one of each kind. -/
abbrev Extensions := Dict Json

/-- What a predicate looks at. -/
structure SecurityContext where
  request : RequestView
  captures : Captures
  /-- What the application provides for all requests. -/
  services : Extensions
  credential : Option Json
  /-- What has been left for the application. -/
  extensions : Extensions

namespace SecurityContext

/-- The context of a request before any scheme has been asked. -/
def fresh (request : RequestView) (captures : Captures) (services : Extensions) : SecurityContext :=
  ⟨request, captures, services, none, Dict.empty⟩

/-- The credential as a text, if it is one. -/
def credentialText? (ctx : SecurityContext) : Option String := ctx.credential.bind Json.str?

end SecurityContext

/-- Results that accept or reject a credential. -/
class Truthy (α : Type) where
  truthy : α → Bool

instance : Truthy Bool := ⟨id⟩

instance {α : Type} [Truthy α] : Truthy (Option α) := ⟨fun a => a.any Truthy.truthy⟩

/-- Null and false reject, everything else accepts. -/
instance : Truthy Json where
  truthy
    | .null => false
    | .bool b => b
    | _ => true

/-- What a predicate says, and what it leaves for the application. -/
structure PredicateResult where
  verdict : Except PredicateError Bool
  extensions : Extensions

/-- A check of a credential. -/
abbrev Predicate := SecurityContext → PredicateResult

/-- Where a scheme finds its credential. -/
inductive Carrier
  /-- In a parameter. -/
  | apiKey (parameter : Parameter)
  /-- In the authorization header, after the scheme's token. -/
  | http (token : String) (bearerFormat : Option String)

/-- A declared security scheme.  A scheme with no predicate accepts nothing. -/
structure Scheme where
  name : String
  carrier : Carrier
  description : Option String
  predicate : Option Predicate

/-- What became of asking a scheme. -/
structure SchemeOutcome where
  verdict : Except SecurityFault Bool
  context : SecurityContext
  /-- Whether the predicate was run. -/
  consulted : Bool

namespace Scheme

/-- A scheme with a key in a parameter, which must be one that may be absent. -/
def apiKey (name : String) (parameter : Parameter) (description : Option String)
    (predicate : Option Predicate) : Except SetupError Scheme :=
  if parameter.required then .error (.requiredApiKey name parameter.wireName)
  else .ok ⟨name, .apiKey parameter, description, predicate⟩

/-- A scheme of the authorization header. -/
def http (name token : String) (bearerFormat description : Option String)
    (predicate : Option Predicate) : Scheme :=
  ⟨name, .http token bearerFormat, description, predicate⟩

/-- The credential in a request; null and what cannot be read count as none. -/
def credential? (c : Catalog) (s : Scheme) (request : RequestView) (captures : Captures) :
    Option Json :=
  match s.carrier with
  | .apiKey p =>
    match p.lookup c request captures with
    | .ok value => value.filter fun v => !v.isNull
    | .error _ => none
  | .http token _ =>
    (request.header Header.authorizationKey >>= Credential.ofAuthorization? token).map .str

/-- Whether the scheme looks for its credential in the query string. -/
def readsQuery (s : Scheme) : Bool :=
  match s.carrier with
  | .apiKey p => p.readsQuery
  | .http _ _ => false

/-- What the verdict of a predicate means for the scheme: a failure rejects the credential unless the
means to check it are at fault. -/
def settle (s : Scheme) : Except PredicateError Bool → Except SecurityFault Bool
  | .ok accepted => .ok accepted
  | .error e => if e.fault.isSome then .error ⟨s.name, e⟩ else .ok false

/-- Finds the credential and asks the predicate about it. -/
def validate (c : Catalog) (s : Scheme) (ctx : SecurityContext) : SchemeOutcome :=
  let ctx := { ctx with credential := s.credential? c ctx.request ctx.captures }
  match ctx.credential, s.predicate with
  | some _, some predicate =>
    let result := predicate ctx
    ⟨s.settle result.verdict, { ctx with extensions := result.extensions }, true⟩
  | _, _ => ⟨.ok false, ctx, false⟩

/-- The name of what carries the credential. -/
def carrierName (s : Scheme) : String :=
  match s.carrier with
  | .apiKey p => p.wireName
  | .http token _ => token

/-- The object that describes the scheme. -/
def toJson (s : Scheme) : Json :=
  let details := match s.carrier with
    | .apiKey p =>
      [("type", Json.str "apiKey"), ("name", .str p.wireName), ("in", .str p.location.name)]
    | .http token bearerFormat =>
      [("type", Json.str "http"), ("scheme", .str (Text.lowerAscii token))] ++
        (bearerFormat.map fun format => ("bearerFormat", Json.str format)).toList
  .object (details ++ (s.description.map fun text => ("description", Json.str text)).toList)

end Scheme
end ApiContract
