import ApiContract.Endpoint
import ApiContract.Proofs.Parameter

/-! # How a request is read

Once the schemes have let a request in, an endpoint reads its parameters and its body.  The query cache
does not show: each parameter is read as it is from the request itself (`readParameters_eq`).

`Endpoint.problems` are the violations of a request, those of the parameters in order and then those of
the body, and `Endpoint.values` the values that its parameters have.  The request is refused with its
problems if there are any (`readRequest_eq`), and there are none exactly if every parameter and the
body can be read (`problems_eq_nil_iff`): whatever cannot be read names a violation, as coercion
does. -/

namespace ApiContract

namespace Parameter

/-- The violations of a parameter on a request. -/
def violations (c : Catalog) (view : RequestView) (captures : Captures) (p : Parameter) :
    List Violation :=
  match p.retrieve c view captures with
  | .error e => e.violations
  | .ok _ => []

/-- The value of a parameter on a request, with its name. -/
def value? (c : Catalog) (view : RequestView) (captures : Captures) (p : Parameter) :
    Option (String × Json) :=
  match p.retrieve c view captures with
  | .ok (some v) => some (p.name, v)
  | _ => none

end Parameter

namespace Endpoint

/-- The violations of a request: those of the parameters in order, then those of the body. -/
def problems (c : Catalog) (e : Endpoint) (view : RequestView) (captures : Captures) :
    List Violation :=
  e.parameters.flatMap (Parameter.violations c view captures) ++
    e.body.toList.flatMap fun b => bodyViolations (b.validate c view.body)

/-- The values that the parameters of a request have, with their names, in order. -/
def values (c : Catalog) (e : Endpoint) (view : RequestView) (captures : Captures) :
    List (String × Json) :=
  e.parameters.filterMap (Parameter.value? c view captures)

/-- The answer to a request that the schemes have let in, leaving some extensions. -/
def answer (c : Catalog) (e : Endpoint) (view : RequestView) (captures : Captures)
    (extensions : Extensions) : Except Rejection ValidatedRequest :=
  if e.problems c view captures = [] then
    .ok ⟨Dict.ofList (e.values c view captures), (e.readBody c view).toOption.join, extensions⟩
  else .error (.invalid (e.problems c view captures))

variable {c : Catalog} {e : Endpoint} {view : RequestView} {captures : Captures}

/-! ### The query cache does not show -/

theorem readParameters_eq (c : Catalog) (captures : Captures) (cache : QueryCache)
    (parameters : List Parameter) : readParameters c captures cache parameters =
      parameters.map fun p => (p.name, p.retrieve c cache.view captures) := by
  induction parameters generalizing cache with
  | nil => rfl
  | cons p rest ih => rw [readParameters, ih, QueryCache.view_after, List.map_cons]

theorem parameterViolations_readParameters (cache : QueryCache) (parameters : List Parameter) :
    parameterViolations (readParameters c captures cache parameters) =
      parameters.flatMap (Parameter.violations c cache.view captures) := by
  rw [readParameters_eq, parameterViolations, List.flatMap_map]
  rfl

theorem found_readParameters (cache : QueryCache) (parameters : List Parameter) :
    found (readParameters c captures cache parameters) =
      parameters.filterMap (Parameter.value? c cache.view captures) := by
  rw [readParameters_eq, found, List.filterMap_map]
  rfl

theorem readRequest_eq (e : Endpoint) (cache : QueryCache) (extensions : Extensions) :
    e.readRequest c cache captures extensions = e.answer c cache.view captures extensions := by
  have body : bodyViolations (e.readBody c cache.view) =
      e.body.toList.flatMap fun b => bodyViolations (b.validate c cache.view.body) := by
    unfold readBody
    cases e.body with
    | none => rfl
    | some b => exact (List.append_nil _).symm
  unfold readRequest answer
  simp only [parameterViolations_readParameters, found_readParameters, body]
  rw [← problems, ← values]
  cases e.problems c cache.view captures with
  | nil => rfl
  | cons v vs => rfl

/-! ### What cannot be read names a violation -/

/-- Parsing a query string fails with a violation, if it fails. -/
theorem queryPairs_error {limit : Nat} {query : String} {err : ParameterError}
    (h : queryPairs limit query = .error err) : err.violations ≠ [] := by
  rw [queryPairs_eq] at h
  split at h
  · cases h
    simp [ParameterError.violations]
  · cases h

end Endpoint

namespace Parameter
variable {c : Catalog} {view : RequestView} {captures : Captures} {p : Parameter}

theorem violations_eq_nil_iff (parsed : ∀ err, view.pairs = .error err → err.violations ≠ []) :
    p.violations c view captures = [] ↔ ∃ v, p.retrieve c view captures = .ok v := by
  unfold violations
  cases h : p.retrieve c view captures with
  | error err => simpa using retrieve_error parsed h
  | ok v => simp

end Parameter

theorem Body.validate_error {c : Catalog} {b : Body} {body : Option Json} {err : BodyError}
    (h : b.validate c body = .error err) : err.violations ≠ [] := by
  cases body with
  | none =>
      rw [validate] at h
      split at h
      · cases h
        simp [BodyError.violations]
      · cases h
  | some v =>
      rw [validate] at h
      cases read : b.type.coerce c v with
      | ok w => rw [read] at h; cases h
      | error vs =>
          rw [read] at h
          cases h
          intro none
          obtain rfl := List.map_eq_nil_iff.1 none
          exact Descriptor.coerce_ne_error_nil c _ _ read

namespace Endpoint
variable {c : Catalog} {e : Endpoint} {view : RequestView} {captures : Captures}

theorem bodyViolations_eq_nil_iff {b : Body} {body : Option Json} :
    bodyViolations (b.validate c body) = [] ↔ ∃ v, b.validate c body = .ok v := by
  cases h : b.validate c body with
  | error err => simpa [bodyViolations] using Body.validate_error h
  | ok v => simp [bodyViolations]

theorem problems_eq_nil_iff (parsed : ∀ err, view.pairs = .error err → err.violations ≠ []) :
    e.problems c view captures = [] ↔
      (∀ p ∈ e.parameters, ∃ v, p.retrieve c view captures = .ok v) ∧
      ∀ b ∈ e.body, ∃ v, b.validate c view.body = .ok v := by
  unfold problems
  rw [List.append_eq_nil_iff, List.flatMap_eq_nil_iff, List.flatMap_eq_nil_iff]
  simp only [Parameter.violations_eq_nil_iff parsed, bodyViolations_eq_nil_iff, Option.mem_toList,
    Option.mem_def]

/-! ### Which requests are let in -/

/-- The query cache is left as it shows the request. -/
theorem askSchemes_view (c : Catalog) (captures : Captures) (services : Extensions)
    (tried : List String) (cache : QueryCache) (schemes : List Scheme) (consulted : List String) :
    (askSchemes c captures services tried cache schemes consulted).cache.view = cache.view := by
  induction schemes generalizing cache consulted with
  | nil => rfl
  | cons s rest ih =>
      rw [askSchemes]
      split
      · exact QueryCache.view_after _ _
      · exact QueryCache.view_after _ _
      · rw [ih, QueryCache.view_after]

theorem authorize_view (c : Catalog) (e : Endpoint) (view : RequestView) (captures : Captures)
    (services : Extensions) : (e.authorize c (.new view) captures services).cache.view = view := by
  unfold authorize
  split
  · rfl
  · exact askSchemes_view _ _ _ _ _ _ _

theorem validate_eq (c : Catalog) (e : Endpoint) (view : RequestView) (captures : Captures)
    (services : Extensions) : (e.validate c view captures services).outcome =
      (e.authorize c (.new view) captures services).outcome >>= e.answer c view captures := by
  unfold validate
  dsimp only
  congr 1
  funext extensions
  rw [readRequest_eq, authorize_view]

/-- **Nothing invalid is let in and no violation is lost.**  A request that the schemes let in is let in
exactly if all its parameters and its body can be read from it.  Otherwise it is refused with all
their violations, in order, of which there is at least one.  At no type and no value does coercion fail
without a violation, so lists, maps and objects are read exactly if their parts are. -/
theorem validate_of_authorized {c : Catalog} {e : Endpoint} {limit : Nat} {query : Option String}
    {header cookie : String → Option String} {body : Option Json} {captures : Captures}
    {services extensions : Extensions}
    (authorized : (e.authorize c (.new (.parsed limit query header cookie body)) captures
      services).outcome = .ok extensions) :
    let view := RequestView.parsed limit query header cookie body
    let outcome := (e.validate c view captures services).outcome
    ((∃ r, outcome = .ok r) ↔
      (∀ p ∈ e.parameters, ∃ v, p.retrieve c view captures = .ok v) ∧
      ∀ b ∈ e.body, ∃ v, b.validate c body = .ok v) ∧
    ((¬∃ r, outcome = .ok r) → ∃ vs, outcome = .error (.invalid vs) ∧ vs ≠ [] ∧
      vs = (e.parameters.flatMap fun p => match p.retrieve c view captures with
          | .error err => err.violations
          | .ok _ => []) ++
        e.body.toList.flatMap fun b => match b.validate c body with
          | .error err => err.violations
          | .ok _ => []) ∧
    (∀ ty v, Descriptor.coerce c ty v ≠ .error []) ∧
    (∀ element items, (∃ w, Descriptor.coerce c (.array element) (.arr items) = .ok w) ↔
      ∀ x ∈ items, ∃ y, Descriptor.coerce c element x = .ok y) ∧
    (∀ key value members, (∃ w, Descriptor.coerce c (.map key value) (.obj members) = .ok w) ↔
      ∀ m ∈ members, (∃ k, Descriptor.coerce c key (.str m.1) = .ok k) ∧
        ∃ y, Descriptor.coerce c value m.2 = .ok y) ∧
    ∀ fields members, (∃ w, Descriptor.coerceFields c fields (.obj members) = .ok w) ↔
      ∀ f ∈ fields, match members.lookup f.name with
        | some x => ∃ y, Descriptor.coerce c f.type x = .ok y
        | none => f.type.defaultValue? = none → f.isRequired = false := by
  intro view outcome
  have parsed : ∀ err, view.pairs = .error err → err.violations ≠ [] := fun err => queryPairs_error
  have answered : outcome = e.answer c view captures extensions := by
    show (e.validate c view captures services).outcome = _
    rw [validate_eq, authorized]
    rfl
  unfold answer at answered
  have problems : (∃ r, outcome = .ok r) ↔ e.problems c view captures = [] := by
    rw [answered]
    split <;> simp [*]
  refine ⟨?_, ?_, Descriptor.coerce_ne_error_nil c, fun _ _ => Descriptor.coerce_array_succeeds_iff,
    fun _ _ _ => Descriptor.coerce_map_succeeds_iff, fun _ _ => Descriptor.coerceFields_succeeds_iff⟩
  · rw [problems, problems_eq_nil_iff parsed]
    exact Iff.rfl
  · intro refused
    rw [problems] at refused
    rw [if_neg refused] at answered
    exact ⟨_, answered, refused, rfl⟩

/-! ### Pages of a list -/

/-- The number of a page. -/
def pageNumber : Parameter := ⟨"page", .path, .leaf .integer, .simple, true, none, false⟩

/-- An endpoint for the pages of a list, for every bearer. -/
def pages : Endpoint where
  method := "GET"
  path := "/pages/:page"
  operationId := none
  summary := none
  description := none
  tags := []
  parameters := [pageNumber]
  body := none
  security := [.http "bearerAuth" "Bearer" none none (some fun ctx => ⟨.ok true, ctx.services⟩)]
  responses := []
  deprecated := false

/-- The headers of some bearer. -/
def bearerHeader (key : String) : Option String :=
  if key = Header.authorizationKey then some "Bearer token" else none

theorem pages_authorized : (pages.authorize ⟨[]⟩
    (.new (.parsed 10 none bearerHeader (fun _ => none) none)) [("page", "last")] Dict.empty).outcome =
      .ok Dict.empty := rfl

theorem retrieve_pageNumber : pageNumber.retrieve ⟨[]⟩
    (.parsed 10 none bearerHeader (fun _ => none) none) [("page", "last")] =
      .error (.unparseable "page" .path [.whole "must be an integer"]) := by
  have wire : pageNumber.raw (.parsed 10 none bearerHeader (fun _ => none) none)
      [("page", "last")] = .ok (some (.single "last")) := rfl
  have coerced : Descriptor.coerce ⟨[]⟩ (.leaf .integer) (.str "last") =
      .error [.whole "must be an integer"] := by
    rw [Descriptor.coerce_leaf]
    rfl
  have read : pageNumber.readRaw ⟨[]⟩ (.single "last") =
      .error (.unparseable "page" .path [.whole "must be an integer"]) :=
    Parameter.readRaw_eq_error_iff.2 ⟨_, coerced, rfl⟩
  rw [Parameter.retrieve_of_raw wire, read]
  rfl

theorem validate_pages : (pages.validate ⟨[]⟩
    (.parsed 10 none bearerHeader (fun _ => none) none) [("page", "last")] Dict.empty).outcome =
      .error (.invalid [⟨"page", "must be an integer"⟩]) := by
  obtain ⟨accepted, refused, -⟩ := validate_of_authorized pages_authorized
  obtain ⟨vs, outcome, -, listed⟩ := refused fun ok => by
    obtain ⟨v, hv⟩ := (accepted.1 ok).1 pageNumber List.mem_cons_self
    rw [retrieve_pageNumber] at hv
    cases hv
  rw [outcome, listed]
  show Except.error (Rejection.invalid ([pageNumber].flatMap _ ++ [])) = _
  rw [List.flatMap_singleton, retrieve_pageNumber]
  rfl

end Endpoint
end ApiContract
