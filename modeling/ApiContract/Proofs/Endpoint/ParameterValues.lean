import ApiContract.Proofs.Endpoint.Reading

/-! # The values of parameters in an accepted request

An accepted request holds the values of its parameters by their names.  Parameters of one endpoint are
told apart by location and by the name on the wire, not by this name, so two of them may have one name
and then the value of the last counts.  No value is lost exactly if parameters with one name never
differ in value (`values_kept_iff`); the query string and a header that carry a name each with a value
of its own lose one of them (`traced_loses_value`). -/

namespace ApiContract
namespace Endpoint

variable {c : Catalog} {e : Endpoint} {view : RequestView} {captures : Captures}
  {services : Extensions}

theorem mem_values_iff {name : String} {v : Json} : (name, v) ∈ e.values c view captures ↔
    ∃ p ∈ e.parameters, p.name = name ∧ p.retrieve c view captures = .ok (some v) := by
  have value (p : Parameter) : p.value? c view captures = some (name, v) ↔
      p.name = name ∧ p.retrieve c view captures = .ok (some v) := by
    unfold Parameter.value?
    split
    · next w h => simp [h]
    · next h =>
      simp only [reduceCtorEq, false_iff]
      rintro ⟨-, retrieved⟩
      exact h v retrieved
  simp only [values, List.mem_filterMap, value]

theorem params_of_accepted {r : ValidatedRequest}
    (accepted : (e.validate c view captures services).outcome = .ok r) :
    r.params = Dict.ofList (e.values c view captures) := by
  rw [validate_eq] at accepted
  cases authorized : (e.authorize c (.new view) captures services).outcome with
  | error rejection => rw [authorized] at accepted; cases accepted
  | ok extensions =>
      rw [authorized] at accepted
      change e.answer c view captures extensions = .ok r at accepted
      unfold answer at accepted
      split at accepted
      · rw [← Except.ok.inj accepted]
      · cases accepted

/-- In an accepted request a name has the value of the last parameter that has this name and a value.
No value is lost exactly if parameters of one name never have two values. -/
theorem values_kept_iff {r : ValidatedRequest}
    (accepted : (e.validate c view captures services).outcome = .ok r) :
    (∀ name, r.params.get? name = (e.values c view captures).reverse.lookup name) ∧
    ((∀ p ∈ e.parameters, ∀ v, p.retrieve c view captures = .ok (some v) →
        r.params.get? p.name = some v) ↔
      ∀ p ∈ e.parameters, ∀ q ∈ e.parameters, p.name = q.name → ∀ v w,
        p.retrieve c view captures = .ok (some v) → q.retrieve c view captures = .ok (some w) →
        v = w) := by
  have last (name : String) :
      r.params.get? name = (e.values c view captures).reverse.lookup name := by
    rw [params_of_accepted accepted, Dict.get?_ofList]
  refine ⟨last, ?_, ?_⟩
  · intro kept p hp q hq same v w hv hw
    have first := kept p hp v hv
    have second := kept q hq w hw
    rw [same, second] at first
    exact (Option.some.inj first).symm
  · intro agree p hp v hv
    have listed : (p.name, v) ∈ e.values c view captures := mem_values_iff.2 ⟨p, hp, rfl, hv⟩
    have present : (r.params.get? p.name).isSome := by
      rw [params_of_accepted accepted]
      exact Entries.lookup_ofList_isSome_of_mem listed
    obtain ⟨w, hw⟩ := Option.isSome_iff_exists.1 present
    have origin : (p.name, w) ∈ e.values c view captures := by
      rw [params_of_accepted accepted] at hw
      exact Entries.mem_of_lookup_ofList hw
    obtain ⟨q, hq, same, hq'⟩ := mem_values_iff.1 origin
    rw [hw, agree p hp q hq same.symm v w hv hq']

/-! ### One name in two places -/

/-- A text in the query string, with the name `trace`. -/
def traceQuery : Parameter := ⟨"trace", .query, .leaf .string, .form, false, none, false⟩

/-- A text in a header, with the name `trace` too. -/
def traceHeader : Parameter :=
  ⟨"trace", .header "trace", .leaf .string, .simple, false, none, false⟩

/-- An endpoint that takes a trace from either place. -/
def traced : Endpoint where
  method := "GET"
  path := "/items"
  operationId := none
  summary := none
  description := none
  tags := []
  parameters := [traceQuery, traceHeader]
  body := none
  security := []
  responses := []
  deprecated := false

/-- A request with a trace in both places. -/
def tracedRequest (header : String) : RequestView where
  pairs := .ok [("trace", "a")]
  header key := if key = Header.transportKey "trace" then some header else none
  cookie _ := none
  body := none

theorem retrieve_traceQuery (header : String) :
    traceQuery.retrieve ⟨[]⟩ (tracedRequest header) [] = .ok (some (.str "a")) := by
  have wire : traceQuery.raw (tracedRequest header) [] = .ok (some (.single "a")) := rfl
  have coerced : Descriptor.coerce ⟨[]⟩ (.leaf .string) (.str "a") = .ok (.str "a") := by
    rw [Descriptor.coerce_leaf]
    rfl
  rw [Parameter.retrieve_of_raw wire, Parameter.readRaw_eq_ok_iff.2 coerced]
  rfl

theorem retrieve_traceHeader (header : String) :
    traceHeader.retrieve ⟨[]⟩ (tracedRequest header) [] = .ok (some (.str header)) := by
  have wire : traceHeader.raw (tracedRequest header) [] = .ok (some (.single header)) := rfl
  have coerced : Descriptor.coerce ⟨[]⟩ (.leaf .string) (.str header) = .ok (.str header) := by
    rw [Descriptor.coerce_leaf]
    rfl
  rw [Parameter.retrieve_of_raw wire, Parameter.readRaw_eq_ok_iff.2 coerced]
  rfl

theorem validate_traced (header : String) :
    (traced.validate ⟨[]⟩ (tracedRequest header) [] Dict.empty).outcome =
      .ok ⟨Dict.ofList [("trace", .str "a"), ("trace", .str header)], none, Dict.empty⟩ := by
  have fromQuery : traceQuery.value? ⟨[]⟩ (tracedRequest header) [] = some ("trace", .str "a") := by
    rw [Parameter.value?, retrieve_traceQuery]
    rfl
  have fromHeader :
      traceHeader.value? ⟨[]⟩ (tracedRequest header) [] = some ("trace", .str header) := by
    rw [Parameter.value?, retrieve_traceHeader]
    rfl
  have values : traced.values ⟨[]⟩ (tracedRequest header) [] =
      [("trace", .str "a"), ("trace", .str header)] := by
    show [traceQuery, traceHeader].filterMap _ = _
    rw [List.filterMap_cons_some fromQuery, List.filterMap_cons_some fromHeader, List.filterMap_nil]
  have problems : traced.problems ⟨[]⟩ (tracedRequest header) [] = [] := by
    simp [problems, traced, Parameter.violations, retrieve_traceQuery, retrieve_traceHeader]
  rw [validate_eq]
  show traced.answer ⟨[]⟩ (tracedRequest header) [] Dict.empty = _
  rw [answer, if_pos problems, values]
  rfl

theorem traced_keeps_value : ∃ r,
    (traced.validate ⟨[]⟩ (tracedRequest "a") [] Dict.empty).outcome = .ok r ∧
    r.params.get? traceQuery.name = some (.str "a") ∧
    r.params.get? traceHeader.name = some (.str "a") := by
  have only : ∀ p ∈ traced.parameters, ∀ v,
      p.retrieve ⟨[]⟩ (tracedRequest "a") [] = .ok (some v) → v = .str "a" := by
    intro p hp v hv
    simp only [traced, List.mem_cons, List.not_mem_nil, or_false] at hp
    rcases hp with rfl | rfl
    · rw [retrieve_traceQuery] at hv
      exact (Option.some.inj (Except.ok.inj hv)).symm
    · rw [retrieve_traceHeader] at hv
      exact (Option.some.inj (Except.ok.inj hv)).symm
  have kept := (values_kept_iff (validate_traced "a")).2.2 (by
    intro p hp q hq _ v w hv hw
    rw [only p hp v hv, only q hq w hw])
  refine ⟨_, validate_traced "a", ?_, ?_⟩
  · exact kept traceQuery List.mem_cons_self _ (retrieve_traceQuery "a")
  · exact kept traceHeader (List.mem_cons_of_mem _ List.mem_cons_self) _ (retrieve_traceHeader "a")

/-- The endpoint passes its check, the request is accepted, and the trace of the query string is
lost to that of the header. -/
theorem traced_loses_value : traced.check = .ok () ∧ ∃ r,
    (traced.validate ⟨[]⟩ (tracedRequest "b") [] Dict.empty).outcome = .ok r ∧
    traceQuery ∈ traced.parameters ∧
    traceQuery.retrieve ⟨[]⟩ (tracedRequest "b") [] = .ok (some (.str "a")) ∧
    r.params.get? traceQuery.name = some (.str "b") ∧
    r.params.get? traceQuery.name ≠ some (.str "a") := by
  have last : (Dict.ofList [("trace", Json.str "a"), ("trace", .str "b")]).get? "trace" =
      some (.str "b") := rfl
  refine ⟨rfl, _, validate_traced "b", List.mem_cons_self, retrieve_traceQuery "b", last, ?_⟩
  intro kept
  have same := last.symm.trans kept
  simp at same

end Endpoint
end ApiContract
