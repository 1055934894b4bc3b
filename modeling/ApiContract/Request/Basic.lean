import ApiContract.Json.Basic
import ApiContract.Request.Cookie
import ApiContract.Request.Header
import ApiContract.Request.Target
import ApiContract.RequestError

/-! # Requests

A request as descriptors see it: the query string, headers by transport key, cookies and a body that
has been decoded already.  Adding a cookie header also adds its cookies.

`RequestView` is all that a descriptor may ask of a request.  The query string is read once, for all
parameters. -/

namespace ApiContract

/-- What a router found for the variables of a path, in order. -/
abbrev Captures := List (String × String)

/-- The value of a variable; the last counts. -/
def capture? (captures : Captures) (name : String) : Option String := captures.reverse.lookup name

/-- A request. -/
structure Request where
  /-- The query string, without the question mark. -/
  query : Option String
  /-- The headers, by transport key. -/
  headers : Dict String
  /-- The cookies, by name. -/
  cookies : Dict String
  /-- The body, if there is one. -/
  body : Option Json

/-- What descriptors may ask of a request. -/
structure RequestView where
  /-- The pairs of the query string. -/
  pairs : Except ParameterError (List (String × String))
  /-- The value of a header, by transport key. -/
  header : String → Option String
  /-- The value of a cookie. -/
  cookie : String → Option String
  body : Option Json

/-- Takes pairs one by one, behind those that have been taken; the first one beyond `limit` ends it. -/
def takePairs (limit : Nat) (taken : List (String × String)) :
    List (String × String) → Except ParameterError (List (String × String))
  | [] => .ok taken
  | pair :: rest =>
    if taken.length = limit then .error (.tooManyPairs limit)
    else takePairs limit (taken ++ [pair]) rest

/-- The pairs of a query string in order, or an error if there are more than `limit`. -/
def queryPairs (limit : Nat) (query : String) : Except ParameterError (List (String × String)) :=
  takePairs limit [] (Form.pairs query)

/-- All pairs are taken, if there are not more than `limit` with those before. -/
theorem takePairs_eq {limit : Nat} {taken : List (String × String)} (within : taken.length ≤ limit)
    (rest : List (String × String)) : takePairs limit taken rest =
      if limit < (taken ++ rest).length then .error (.tooManyPairs limit) else .ok (taken ++ rest) := by
  induction rest generalizing taken with
  | nil =>
    rw [List.append_nil, if_neg (Nat.not_lt.2 within)]
    rfl
  | cons pair rest ih =>
    unfold takePairs
    split
    · next full =>
      have beyond : limit < (taken ++ pair :: rest).length := by
        rw [List.length_append, List.length_cons]
        omega
      rw [if_pos beyond]
    · next room =>
      have within : (taken ++ [pair]).length ≤ limit := by
        rw [List.length_append, List.length_singleton]
        omega
      rw [ih within, List.append_assoc, List.singleton_append]

theorem queryPairs_eq (limit : Nat) (query : String) : queryPairs limit query =
    if limit < (Form.pairs query).length then .error (.tooManyPairs limit)
    else .ok (Form.pairs query) :=
  takePairs_eq (Nat.zero_le limit) (Form.pairs query)

/-- A request as descriptors see it, if its query string is parsed with a limit on the pairs.  No query
string reads as an empty one. -/
def RequestView.parsed (limit : Nat) (query : Option String) (header cookie : String → Option String)
    (body : Option Json) : RequestView :=
  ⟨queryPairs limit (query.getD ""), header, cookie, body⟩

namespace Request

/-- A request with nothing in it. -/
def empty : Request := ⟨none, Dict.empty, Dict.empty, none⟩

/-- Sets the query string. -/
def withQuery (r : Request) (query : String) : Request := { r with query := some query }

/-- Adds a header; the values of a repeated header are joined. -/
def withHeader (r : Request) (name value : String) : Request :=
  let key := Header.transportKey name
  let joined := match r.headers.get? key with
    | some existing => existing ++ Header.separator name ++ value
    | none => value
  { r with
    headers := r.headers.insert key joined
    cookies := if Header.isCookie name then r.cookies.insertAll (Cookie.pairs value) else r.cookies }

/-- Adds a cookie. -/
def withCookie (r : Request) (name value : String) : Request :=
  { r with cookies := r.cookies.insert name value }

/-- Sets the body. -/
def withBody (r : Request) (body : Json) : Request := { r with body := some body }

/-- The request as descriptors see it. -/
def view (r : Request) (limit : Nat) : RequestView :=
  .parsed limit r.query r.headers.get? r.cookies.get? r.body

/-! ### Requests as they are sent -/

/-- The values of repeated headers behind the first of their name, names in lower case. -/
def groupHeaders (headers : List (String × List UInt8)) : List (String × List UInt8) :=
  let lowered := headers.map fun (name, value) => (Text.lowerAscii name, value)
  (lowered.map Prod.fst).eraseDups.flatMap fun name => lowered.filter fun h => h.1 == name

/-- A request from its target, its headers as bytes and its body; `none` when the target or a
header is malformed. -/
def ofHttp? (target : String) (headers : List (String × List UInt8)) (body : Option Json) :
    Option Request := do
  let query ← Target.query? target
  if headers.all fun (name, value) => Header.isName name && Header.isValue value then
    return (groupHeaders headers).foldl
      (fun r (name, value) => r.withHeader name (String.ofList (Utf8.decodeLossy value)))
      { empty with query := query, body := body }
  else none

end Request
end ApiContract
