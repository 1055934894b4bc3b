import ApiContract.Proofs.Schema.Publication
import ApiContract.Proofs.Schema.Session
import ApiContract.Proofs.Schema.Settled

/-! # What a failed operation leaves behind

A fragment that fails takes back what it has published.  The object of an endpoint is put together from
several fragments, and nothing takes back those that came before the one that fails.

`Compiler.StepsThrough` says that a computation publishes some types one after the other, each of them
as a whole or not at all.  The object of an endpoint steps through the endpoint's types, so a failure
leaves exactly what the types before the failing one have published (`Endpoint.operation_fails_iff`).
The document is as it was only if these types add no struct to it; else a struct that no operation
shows holds its name (`Compiler.countedPages_leave_page`). -/

namespace ApiContract

namespace Document
variable {r : Registry} {c : Catalog}

/-! ### Publishing in two parts -/

theorem publish_append (ms ns : List Mention) (doc : Document) :
    publish r c (ms ++ ns) doc = publish r c ms doc >>= publish r c ns := by
  fun_induction publish r c ms doc with
  | case1 doc => rfl
  | case2 doc l rest registered ih => rw [List.cons_append, publish_leaf, if_pos registered, ih]
  | case3 doc l rest unknown =>
      rw [List.cons_append, publish_leaf, if_neg unknown]
      rfl
  | case4 doc id rest gone =>
      rw [List.cons_append, publish_struct, gone]
      rfl
  | case5 doc id rest d found taken ih =>
      rw [List.cons_append, publish_struct, found]
      simp only [taken, if_true, ih]
  | case6 doc id rest d found origin taken other =>
      rw [List.cons_append, publish_struct, found]
      simp only [taken, if_neg other]
      rfl
  | case7 doc id rest d found free ih =>
      rw [List.append_assoc] at ih
      rw [List.cons_append, publish_struct, found]
      simp only [free, ih]

/-- Publishing changes nothing if all that it is given can be relied on already, and only then. -/
theorem publish_eq_self_iff {ms : List Mention} {doc : Document} :
    publish r c ms doc = .ok doc ↔ ∀ m ∈ ms, Honours r c doc m :=
  ⟨publish_honours, publish_of_honours⟩

/-! ### The first type that cannot be published -/

section stops
variable {doc next : Document} {before after : List Descriptor} {ty : Descriptor} {e : SetupError}

/-- The first of some types that cannot be published, with the document that the types before it lead
to and the reason. -/
structure StopsAt (r : Registry) (c : Catalog) (doc : Document) (before : List Descriptor)
    (ty : Descriptor) (next : Document) (e : SetupError) : Prop where
  published : doc.publish r c (before.flatMap Descriptor.mentions) = .ok next
  stuck : next.publish r c ty.mentions = .error e

/-- Nothing that comes later can be published. -/
theorem StopsAt.publish_eq (h : StopsAt r c doc before ty next e) (after : List Descriptor) :
    doc.publish r c ((before ++ ty :: after).flatMap Descriptor.mentions) = .error e := by
  rw [List.flatMap_append, publish_append, h.published]
  show next.publish r c (ty.mentions ++ after.flatMap Descriptor.mentions) = .error e
  rw [publish_append, h.stuck]
  rfl

theorem StopsAt.next_eq {before' after' more : List Descriptor} {ty' : Descriptor} {next' : Document}
    {e' : SetupError} (h : StopsAt r c doc before ty next e)
    (h' : StopsAt r c doc before' ty' next' e') (longer : before' = before ++ more)
    (rest : ty :: after = more ++ ty' :: after') : next = next' := by
  have reached := h'.published
  rw [longer] at reached
  cases more with
  | nil =>
      rw [List.append_nil, h.published] at reached
      exact Except.ok.inj reached
  | cons first more =>
      obtain ⟨rfl, -⟩ := List.cons.inj rest
      rw [h.publish_eq more] at reached
      cases reached

theorem StopsAt.unique {before' after' : List Descriptor} {ty' : Descriptor} {next' : Document}
    {e' : SetupError} (h : StopsAt r c doc before ty next e)
    (h' : StopsAt r c doc before' ty' next' e')
    (same : before ++ ty :: after = before' ++ ty' :: after') : next = next' ∧ e = e' := by
  have whole := h.publish_eq after
  rw [same, h'.publish_eq after'] at whole
  refine ⟨?_, (Except.error.inj whole).symm⟩
  rcases List.append_eq_append_iff.1 same with ⟨more, longer, rest⟩ | ⟨more, longer, rest⟩
  · exact h.next_eq h' longer rest
  · exact (h'.next_eq h longer rest).symm

/-- What has been published before such a place is nothing new if it could be relied on already. -/
theorem StopsAt.next_eq_self_iff (h : StopsAt r c doc before ty next e) :
    next = doc ↔ ∀ s ∈ before, ∀ m ∈ s.mentions, Honours r c doc m := by
  have unchanged : next = doc ↔ doc.publish r c (before.flatMap Descriptor.mentions) = .ok doc := by
    rw [h.published, Except.ok.injEq]
  rw [unchanged, publish_eq_self_iff]
  simp only [List.mem_flatMap]
  constructor
  · intro honoured s hs m hm
    exact honoured m ⟨s, hs, hm⟩
  · rintro honoured m ⟨s, hs, hm⟩
    exact honoured s hs m hm

end stops
end Document

namespace Compiler
variable {α β : Type} {r : Registry} {c : Catalog}

/-! ### One type after the other -/

/-- A computation that publishes some types one after the other.  If it fails, one of them could not be
published, and the document is what the types before it have made of it. -/
def StepsThrough (r : Registry) (c : Catalog) (m : Compiler α) (types : List Descriptor) : Prop :=
  ∀ doc, match m.run.run doc with
    | (.ok _, next) => doc.publish r c (types.flatMap Descriptor.mentions) = .ok next
    | (.error e, next) => ∃ before ty after, types = before ++ ty :: after ∧
        Document.StopsAt r c doc before ty next e

section steps
variable {m : Compiler α} {ts us : List Descriptor}

theorem stepsThrough_pure (a : α) : StepsThrough r c (pure a) [] :=
  fun doc => Document.publish_nil r c doc

theorem stepsThrough_fragment (ty : Descriptor) : StepsThrough r c (fragment r c ty) [ty] := by
  intro doc
  rw [run_fragment]
  cases published : doc.publish r c ty.mentions with
  | ok next => simpa using published
  | error e => exact ⟨[], ty, [], rfl, Document.publish_nil r c doc, published⟩

theorem StepsThrough.bind {k : α → Compiler β} (first : StepsThrough r c m ts)
    (rest : ∀ a, StepsThrough r c (k a) us) : StepsThrough r c (m >>= k) (ts ++ us) := by
  intro doc
  have start := first doc
  rw [run_bind]
  cases ran : m.run.run doc with
  | mk result middle =>
      rw [ran] at start
      cases result with
      | error e =>
          obtain ⟨before, ty, after, rfl, stops⟩ := start
          exact ⟨before, ty, after ++ us, by simp, stops⟩
      | ok a =>
          have joined (more : List Descriptor) :
              doc.publish r c ((ts ++ more).flatMap Descriptor.mentions) =
                middle.publish r c (more.flatMap Descriptor.mentions) := by
            rw [List.flatMap_append, Document.publish_append, start]
            rfl
          have further := rest a middle
          dsimp only
          cases ran' : (k a).run.run middle with
          | mk result' next =>
              rw [ran'] at further
              cases result' with
              | ok b => exact (joined us).trans further
              | error e =>
                  obtain ⟨before, ty, after, rfl, published, stuck⟩ := further
                  exact ⟨ts ++ before, ty, after, by simp, (joined before).trans published, stuck⟩

theorem StepsThrough.bind_pure (h : StepsThrough r c m ts) (f : α → β) :
    StepsThrough r c (m >>= fun a => pure (f a)) ts := by
  have whole := h.bind fun a => stepsThrough_pure (r := r) (c := c) (f a)
  rwa [List.append_nil] at whole

theorem stepsThrough_mapM {ι : Type} {f : ι → Compiler α} {types : ι → List Descriptor} (xs : List ι)
    (each : ∀ x, StepsThrough r c (f x) (types x)) :
    StepsThrough r c (xs.mapM f) (xs.flatMap types) := by
  induction xs with
  | nil => exact stepsThrough_pure []
  | cons x xs ih =>
      rw [List.mapM_cons, List.flatMap_cons]
      exact (each x).bind fun a => ih.bind_pure _

theorem stepsThrough_mapM_option {ι : Type} {f : ι → Compiler α} {types : ι → List Descriptor}
    (o : Option ι) (each : ∀ x, StepsThrough r c (f x) (types x)) :
    StepsThrough r c (o.mapM f) (o.toList.flatMap types) := by
  cases o with
  | none => exact stepsThrough_pure none
  | some x =>
      rw [Option.toList_some, List.flatMap_singleton]
      exact (each x).bind_pure some

end steps

/-! ### The parts of an operation -/

section parts

theorem stepsThrough_parameter (p : Parameter) :
    StepsThrough r c (p.operationPart r c) [p.type] :=
  (stepsThrough_fragment p.type).bind_pure _

theorem stepsThrough_body (b : Body) : StepsThrough r c (b.operationPart r c) [b.type] :=
  (stepsThrough_fragment b.type).bind_pure _

theorem stepsThrough_response (resp : Response) :
    StepsThrough r c (resp.operationPart r c) resp.type.toList := by
  unfold Response.operationPart
  cases resp.type with
  | none => exact stepsThrough_pure _
  | some ty => exact (stepsThrough_fragment ty).bind_pure _

theorem stepsThrough_responses (responses : Responses) :
    StepsThrough r c (Endpoint.responsesPart r c responses)
      (responses.flatMap fun entry => entry.2.type.toList) := by
  have entries := stepsThrough_mapM responses fun entry : Nat × Response =>
    (stepsThrough_response (r := r) (c := c) entry.2).bind_pure fun part => (toString entry.1, part)
  simp only [Endpoint.responsesPart, ← apply_ite (pure : Json → Compiler Json)]
  exact entries.bind_pure _

theorem stepsThrough_operation (e : Endpoint) : StepsThrough r c (e.operation r c) e.types := by
  have parameters := stepsThrough_mapM e.parameters (stepsThrough_parameter (r := r) (c := c))
  have body := stepsThrough_mapM_option e.body (stepsThrough_body (r := r) (c := c))
  have types : e.types = e.parameters.flatMap (fun p => [p.type]) ++
      (e.body.toList.flatMap (fun b => [b.type]) ++
        e.responses.flatMap fun entry => entry.2.type.toList) := by
    cases hb : e.body <;> simp [Endpoint.types, hb, List.map_eq_flatMap]
  rw [types]
  exact parameters.bind fun _ => body.bind fun _ => (stepsThrough_responses e.responses).bind_pure _

end parts
end Compiler

/-! ### Where an operation fails -/

/-- A computation that publishes some types one after the other fails where these stop. -/
theorem Compiler.StepsThrough.run_eq_error_iff {α : Type} {r : Registry} {c : Catalog}
    {m : Compiler α} {types : List Descriptor} (h : StepsThrough r c m types) {doc next : Document}
    {err : SetupError} : m.run.run doc = (.error err, next) ↔
      ∃ before ty after, types = before ++ ty :: after ∧
        Document.StopsAt r c doc before ty next err := by
  have steps := h doc
  constructor
  · intro failed
    rw [failed] at steps
    exact steps
  · rintro ⟨before, ty, after, same, stops⟩
    cases ran : m.run.run doc with
    | mk result next' =>
        rw [ran] at steps
        cases result with
        | ok a =>
            have published : doc.publish r c (types.flatMap Descriptor.mentions) = .ok next' := steps
            rw [same, stops.publish_eq after] at published
            cases published
        | error err' =>
            obtain ⟨before', ty', after', same', stops'⟩ := steps
            obtain ⟨rfl, rfl⟩ := stops.unique stops' (same.symm.trans same')
            rfl

/-- The object of an endpoint fails at the first of its types that cannot be published, and leaves what
the types before this one have published.  That is nothing if these types mention only structs that the
document has already. -/
theorem Endpoint.operation_fails_iff {r : Registry} {c : Catalog} {e : Endpoint}
    {doc next : Document} {err : SetupError} :
    (e.operation r c).run.run doc = (.error err, next) ↔
      ∃ before ty after, e.types = before ++ ty :: after ∧
        Document.StopsAt r c doc before ty next err ∧
        (next = doc ↔ ∀ s ∈ before, ∀ m ∈ s.mentions, Document.Honours r c doc m) := by
  rw [(Compiler.stepsThrough_operation e).run_eq_error_iff]
  constructor
  · rintro ⟨before, ty, after, types, stops⟩
    exact ⟨before, ty, after, types, stops, stops.next_eq_self_iff⟩
  · rintro ⟨before, ty, after, types, stops, -⟩
    exact ⟨before, ty, after, types, stops⟩

/-! ### Pages that are counted -/

namespace Compiler

/-- An operation that takes a page and answers with a counter of a type that is not registered. -/
def countedPages : Endpoint where
  method := "POST"
  path := "/pages"
  operationId := none
  summary := none
  description := none
  tags := []
  parameters := []
  body := some pageBody
  security := []
  responses := [(200, ⟨"the counter", some (.leaf ⟨"counter", .ok⟩), jsonContentType⟩)]
  deprecated := false

/-- A page of another site, which has the name that a page of the first site has. -/
def otherPage : StructDef := ⟨"blog::Page", none, none, []⟩

/-- The catalog of the other site. -/
def otherSite : Catalog := ⟨[otherPage]⟩

/-- The operation stops at its response, when the page in its body has been published. -/
theorem countedPages_stops : Document.StopsAt Registry.builtin site .empty [.struct 0]
    (.leaf ⟨"counter", .ok⟩) siteDocument (.unknownLeaf "counter") where
  published := by
    show Document.empty.publish Registry.builtin site [.struct (some 0)] = _
    rw [publish_page _ rfl, Document.publish_nil]
    rfl
  stuck := by
    rw [Descriptor.mentions, Document.publish_leaf]
    rfl

/-- A compiler on which nothing has been called is asked for the operation.  The operation fails and
leaves the schema of the page.  So the page of the other site, which could have been published before,
is refused. -/
theorem countedPages_leave_page :
    session Registry.builtin [] .empty = ([], .empty) ∧
    (countedPages.operation Registry.builtin site).run.run .empty =
      (.error (.unknownLeaf "counter"), siteDocument) ∧
    siteDocument ≠ .empty ∧
    (fragment Registry.builtin otherSite (.struct 0)).run.run .empty =
      (.ok (schemaRef "Page"), Document.empty.add "Page"
        ⟨"blog::Page", otherPage.schema Registry.builtin otherSite⟩) ∧
    (fragment Registry.builtin otherSite (.struct 0)).run.run siteDocument =
      (.error (.duplicateName "Page" "site::Page" "blog::Page"), siteDocument) := by
  have found : otherSite.resolve? (some 0) = some otherPage := rfl
  have name : otherPage.canonicalName = "Page" := rfl
  have mentioned : otherPage.mentions ++ [] = [] := rfl
  have taken : siteDocument.origin? "Page" = some "site::Page" := rfl
  have free : Document.empty.origin? "Page" = none := rfl
  refine ⟨rfl, ?_, ?_, ?_, ?_⟩
  · have steps := stepsThrough_operation (r := Registry.builtin) (c := site) countedPages
    exact steps.run_eq_error_iff.2 ⟨_, _, [], rfl, countedPages_stops⟩
  · intro same
    rw [same, free] at taken
    cases taken
  · simp only [run_fragment, Descriptor.mentions, Document.publish_struct, found, name, free,
      mentioned, Document.publish_nil]
    rfl
  · simp only [run_fragment, Descriptor.mentions, Document.publish_struct, found, name, taken]
    rfl

end Compiler
end ApiContract
