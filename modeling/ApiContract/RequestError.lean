import ApiContract.SetupError
import ApiContract.Violation

/-! # Errors of a request

What can be wrong with a request: with one of its parameters, with its body, or with the means to
check its credentials.  Every error has one text, and those that are the client's list violations by
the names that the client knows. -/

namespace ApiContract

/-- A parameter that cannot be had from a request. -/
inductive ParameterError
  /-- Not there, although it must be. -/
  | missing (name : String) (location : Location)
  /-- There, but not a value of its type. -/
  | unparseable (name : String) (location : Location) (violations : List Violation)
  /-- More pairs in the query string than are read. -/
  | tooManyPairs (limit : Nat)
  deriving DecidableEq, Repr

namespace ParameterError

/-- The text of the error. -/
def message : ParameterError → String
  | .missing name location => "missing required " ++ location.name ++ " parameter '" ++ name ++ "'"
  | .unparseable name location violations =>
    Violation.listing ("unparseable " ++ location.name ++ " parameter '" ++ name ++ "'") violations
  | .tooManyPairs limit =>
    "query string exceeds the limit of " ++ toString limit ++ " parameters"

/-- The violations of the request as a whole. -/
def violations : ParameterError → List Violation
  | .missing name _ => [⟨name, "is missing"⟩]
  | .unparseable name _ violations => violations.map (·.nested name)
  | .tooManyPairs limit => [.whole ("query string exceeds " ++ toString limit ++ " parameters")]

end ParameterError

/-- A body that cannot be had from a request. -/
inductive BodyError
  | missing
  | invalid (violations : List Violation)
  deriving DecidableEq, Repr

namespace BodyError

/-- The text of the error. -/
def message : BodyError → String
  | .missing => "missing required body"
  | .invalid violations => Violation.listing "invalid body" violations

/-- The violations of the request as a whole. -/
def violations : BodyError → List Violation
  | .missing => [⟨"body", "is missing"⟩]
  | .invalid violations => violations.map (·.nested "body")

end BodyError

/-- What a predicate failed with.  A fault is a failure of the means to decide, whatever text it is
shown with; any other failure rejects the credential. -/
structure PredicateError where
  text : String
  /-- What is at fault, when the means to decide are. -/
  fault : Option String
  deriving DecidableEq, Repr

namespace PredicateError

/-- An error that rejects the credential. -/
def rejection (text : String) : PredicateError := ⟨text, none⟩

/-- A fault of the means to decide. -/
def ofFault (what : String) : PredicateError := ⟨"infrastructure fault: " ++ what, some what⟩

/-- The same failure, shown with another text. -/
def withContext (e : PredicateError) (text : String) : PredicateError := { e with text := text }

end PredicateError

/-- A security scheme that could reach no verdict. -/
structure SecurityFault where
  scheme : String
  source : PredicateError
  deriving DecidableEq, Repr

/-- The text of a fault. -/
def SecurityFault.message (f : SecurityFault) : String :=
  "security scheme '" ++ f.scheme ++ "' failed: " ++ f.source.text

/-- Why a request is refused. -/
inductive Rejection
  /-- None of the schemes accepts it. -/
  | unauthorized (schemes : List String)
  /-- Its parameters or body violate their types. -/
  | invalid (violations : List Violation)
  /-- A scheme could reach no verdict. -/
  | fault (f : SecurityFault)
  deriving DecidableEq, Repr

namespace Rejection

/-- The status that answers the request. -/
def status : Rejection → Nat
  | .unauthorized _ => 401
  | .invalid _ => 400
  | .fault _ => 500

/-- The violations, if those are the reason. -/
def violations : Rejection → List Violation
  | .invalid violations => violations
  | _ => []

/-- The text of the refusal. -/
def message : Rejection → String
  | .unauthorized schemes => "unauthorized (tried: " ++ String.intercalate ", " schemes ++ ")"
  | .invalid violations => "invalid request: " ++ toString violations.length ++ " violation(s)"
  | .fault f => f.message

end Rejection
end ApiContract
