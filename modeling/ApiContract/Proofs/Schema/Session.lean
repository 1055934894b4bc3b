import ApiContract.Endpoint
import ApiContract.Proofs.Schema.References

/-! # Sequences of calls on one compiler

Fragments, parameters, bodies and whole operations are compiled one after the other into one document.
Calls may fail; a failed operation leaves what its parts have published before.

`Compiler.Sound` says what a computation does to a closed document, whether it fails or not, and which
property its value has in the document that it leaves.  It passes through sequences of steps
(`Sound.bind`, `sound_mapM`), so each kind of call has it.  From one call it passes to all calls by
induction: a document that was empty stays closed, and all that was ever answered refers to schemas that
are still there (`session_closed`). -/

namespace ApiContract
namespace Compiler

/-! ### What a computation does to closed documents -/

section sound
variable {α β : Type} {r : Registry} {c : Catalog}

/-- From a closed document a computation comes to a closed one that has the entries of the first.  If it
gives a value, that has a property there. -/
def Sound (m : Compiler α) (P : Document → α → Prop) : Prop :=
  ∀ doc, doc.Closed → ∀ result next, m.run.run doc = (result, next) →
    next.Closed ∧ doc.Extends next ∧ ∀ a, result = .ok a → P next a

variable {P : Document → α → Prop} {Q : Document → β → Prop}

theorem sound_pure {a : α} (h : ∀ doc, P doc a) : Sound (pure a) P := by
  intro doc closed result next ran
  rw [run_pure] at ran
  cases ran
  refine ⟨closed, .refl doc, fun b e => ?_⟩
  cases e
  exact h doc

/-- A property that outlives further entries can be used at the end of all that follows. -/
theorem Sound.bind {m : Compiler α} {k : α → Compiler β} (first : Sound m P)
    (stays : ∀ doc next a, doc.Extends next → P doc a → P next a)
    (rest : ∀ a, Sound (k a) fun doc b => P doc a → Q doc b) : Sound (m >>= k) Q := by
  intro doc closed result next ran
  rw [run_bind] at ran
  cases step : m.run.run doc with
  | mk answer middle =>
      obtain ⟨closed', ext, value⟩ := first doc closed answer middle step
      rw [step] at ran
      cases answer with
      | ok a =>
          obtain ⟨closed'', ext', value'⟩ := rest a middle closed' result next ran
          refine ⟨closed'', ext.trans ext', fun b e => ?_⟩
          exact value' b e (stays middle next a ext' (value a rfl))
      | error e =>
          cases ran
          exact ⟨closed', ext, fun b e => by cases e⟩

theorem sound_mapM {ι : Type} {f : ι → Compiler α} {xs : List ι} (each : ∀ x ∈ xs, Sound (f x) P)
    (stays : ∀ doc next a, doc.Extends next → P doc a → P next a) :
    Sound (xs.mapM f) fun doc as => ∀ a ∈ as, P doc a := by
  induction xs with
  | nil =>
      rw [List.mapM_nil]
      exact sound_pure fun doc a h => by cases h
  | cons x xs ih =>
      rw [List.mapM_cons]
      refine (each x List.mem_cons_self).bind stays fun a => ?_
      refine (ih fun y hy => each y (List.mem_cons_of_mem _ hy)).bind
        (fun doc next as ext h b hb => stays doc next b ext (h b hb)) fun as => ?_
      refine sound_pure fun doc rest own b hb => ?_
      rcases List.mem_cons.1 hb with rfl | hb
      · exact own
      · exact rest b hb

theorem sound_mapM_option {ι : Type} {f : ι → Compiler α} {o : Option ι} (each : ∀ x, Sound (f x) P)
    (stays : ∀ doc next a, doc.Extends next → P doc a → P next a) :
    Sound (o.mapM f) fun doc found => ∀ a, found = some a → P doc a := by
  cases o with
  | none => exact sound_pure fun doc a h => by cases h
  | some x =>
      refine (each x).bind stays fun a => sound_pure fun doc own b e => ?_
      cases e
      exact own

end sound

/-! ### The kinds of calls -/

section calls
variable {r : Registry} {c : Catalog} (assembled : r.Assembled) (free : r.RefFree)
include assembled free

theorem sound_fragment (ty : Descriptor) : Sound (fragment r c ty) Document.Covers := by
  intro doc closed result next ran
  rw [run_fragment] at ran
  cases published : doc.publish r c ty.mentions with
  | error e =>
      rw [published] at ran
      cases ran
      exact ⟨closed, .refl doc, fun a h => by cases h⟩
  | ok final =>
      rw [published] at ran
      cases ran
      refine ⟨closed.publish assembled free published,
        Document.publish_extends closed.paired published, fun a h => ?_⟩
      cases h
      exact closed.covers_fragment assembled free published

theorem sound_parameter (p : Parameter) : Sound (p.operationPart r c) Document.Covers := by
  refine (sound_fragment assembled free p.type).bind (fun _ _ _ ext h => h.mono ext) fun schema => ?_
  refine sound_pure fun doc schemaCovered => Json.refsIn_object ?_
  refine .append (.append (.append (.append ?_ ?_) ?_) ?_) ?_
  · exact Json.membersIn_named (by decide) (Json.refsIn_str _) <|
      Json.membersIn_named (by decide) (Json.refsIn_str _) <|
      Json.membersIn_named (by decide) (Json.refsIn_bool _) Json.membersIn_nil
  · exact Json.membersIn_option (by decide) fun text _ => Json.refsIn_str text
  · exact Json.membersIn_ite
      (Json.membersIn_named (by decide) (Json.refsIn_bool _) Json.membersIn_nil) Json.membersIn_nil
  · exact Json.membersIn_ite Json.membersIn_nil
      (Json.membersIn_named (by decide) (Json.refsIn_str _) Json.membersIn_nil)
  · exact Json.membersIn_named (by decide) schemaCovered Json.membersIn_nil

omit assembled free in
/-- A media type may be called `$ref`; what stands under it is an object. -/
theorem covers_contentObject {doc : Document} {schema : Json} (h : doc.Covers schema)
    (contentType : String) : doc.Covers (contentObject contentType schema) :=
  Json.refsIn_object <| Json.membersIn_cons
    (Json.refsIn_object (Json.membersIn_named (by decide) h Json.membersIn_nil)) (fun _ => rfl)
    Json.membersIn_nil

theorem sound_body (b : Body) : Sound (b.operationPart r c) Document.Covers := by
  refine (sound_fragment assembled free b.type).bind (fun _ _ _ ext h => h.mono ext) fun schema => ?_
  refine sound_pure fun doc schemaCovered => Json.refsIn_object (.append ?_ ?_)
  · exact Json.membersIn_option (by decide) fun text _ => Json.refsIn_str text
  · exact Json.membersIn_named (by decide) (Json.refsIn_bool _) <|
      Json.membersIn_named (by decide) (covers_contentObject schemaCovered _) Json.membersIn_nil

theorem sound_response (resp : Response) : Sound (resp.operationPart r c) fun doc v =>
    doc.Covers v ∧ v.isObject = true := by
  unfold Response.operationPart
  cases resp.type with
  | none =>
      refine sound_pure fun doc => ⟨Json.refsIn_object ?_, rfl⟩
      exact Json.membersIn_named (by decide) (Json.refsIn_str _) Json.membersIn_nil
  | some ty =>
      refine (sound_fragment assembled free ty).bind (fun _ _ _ ext h => h.mono ext) fun schema => ?_
      refine sound_pure fun doc schemaCovered => ⟨Json.refsIn_object ?_, rfl⟩
      exact Json.membersIn_named (by decide) (Json.refsIn_str _) <|
        Json.membersIn_named (by decide) (covers_contentObject schemaCovered _) Json.membersIn_nil

theorem sound_responses (responses : Responses) :
    Sound (Endpoint.responsesPart r c responses) Document.Covers := by
  have part (entry : Nat × Response) : Sound (do return (toString entry.1, ← entry.2.operationPart r c))
      fun doc m => doc.Covers m.2 ∧ m.2.isObject = true := by
    refine (sound_response assembled free entry.2).bind (fun _ _ _ ext h => ⟨h.1.mono ext, h.2⟩) ?_
    exact fun v => sound_pure fun doc own => own
  refine (sound_mapM (fun entry _ => part entry) fun _ _ _ ext h => ⟨h.1.mono ext, h.2⟩).bind
    (fun _ _ _ ext h m hm => ⟨(h m hm).1.mono ext, (h m hm).2⟩) fun members => ?_
  split
  · refine sound_pure fun doc _ => Json.refsIn_object ?_
    exact Json.membersIn_named (by decide) (Json.refsIn_object
      (Json.membersIn_named (by decide) (Json.refsIn_str _) Json.membersIn_nil)) Json.membersIn_nil
  · refine sound_pure fun doc covered => Json.refsIn_object fun m hm => ?_
    exact ⟨(covered m hm).1, fun _ => Json.str?_of_isObject (covered m hm).2⟩

omit assembled free in
theorem membersIn_textMember {P : String → Prop} {key : String} (name : key ≠ "$ref")
    (text : Option String) : Json.MembersIn P (Endpoint.textMember key text) :=
  Json.membersIn_option name fun text _ => Json.refsIn_str text

omit assembled free in
theorem covers_security (doc : Document) (schemes : List Scheme) :
    doc.Covers (.arr (schemes.map fun s => .object [(s.name, .arr [])])) := by
  refine Json.refsIn_arr fun v hv => ?_
  obtain ⟨s, -, rfl⟩ := List.mem_map.1 hv
  exact Json.refsIn_object (Json.membersIn_cons (Json.refsIn_arr (by simp)) (fun _ => rfl)
    Json.membersIn_nil)

theorem sound_operation (e : Endpoint) : Sound (e.operation r c) Document.Covers := by
  refine (sound_mapM (fun p _ => sound_parameter assembled free p) fun _ _ _ ext h => h.mono ext).bind
    (fun _ _ _ ext h v hv => (h v hv).mono ext) fun parameters => ?_
  refine (sound_mapM_option (sound_body assembled free) fun _ _ _ ext h => h.mono ext).bind
    (fun _ _ _ ext h v hv => (h v hv).mono ext) fun body => ?_
  refine (sound_responses assembled free e.responses).bind (fun _ _ _ ext h => h.mono ext) ?_
  refine fun responses => sound_pure fun doc responsesCovered bodyCovered parametersCovered => ?_
  have tags : doc.Covers (.arr (e.tags.map .str)) := by
    refine Json.refsIn_arr fun v hv => ?_
    obtain ⟨tag, -, rfl⟩ := List.mem_map.1 hv
    exact Json.refsIn_str tag
  refine Json.refsIn_object ?_
  refine .append (.append (.append (.append (.append (.append (.append (.append ?_ ?_) ?_) ?_) ?_) ?_)
    ?_) ?_) ?_
  · exact membersIn_textMember (by decide) _
  · exact membersIn_textMember (by decide) _
  · exact membersIn_textMember (by decide) _
  · exact Json.membersIn_ite Json.membersIn_nil
      (Json.membersIn_named (by decide) tags Json.membersIn_nil)
  · exact Json.membersIn_ite
      (Json.membersIn_named (by decide) (Json.refsIn_bool _) Json.membersIn_nil) Json.membersIn_nil
  · exact Json.membersIn_ite Json.membersIn_nil
      (Json.membersIn_named (by decide) (Json.refsIn_arr parametersCovered) Json.membersIn_nil)
  · exact Json.membersIn_option (by decide) bodyCovered
  · exact Json.membersIn_named (by decide) responsesCovered Json.membersIn_nil
  · exact Json.membersIn_ite Json.membersIn_nil
      (Json.membersIn_named (by decide) (covers_security doc e.security) Json.membersIn_nil)

end calls

/-! ### Failures that leave no trace -/

section atomic
variable {α β : Type} {r : Registry} {c : Catalog}

/-- A computation that leaves the document as it was if it fails. -/
def Atomic (m : Compiler α) : Prop :=
  ∀ doc e next, m.run.run doc = (.error e, next) → next = doc

theorem atomic_fragment (ty : Descriptor) : Atomic (fragment r c ty) := by
  intro doc e next ran
  rw [run_fragment_eq] at ran
  split at ran
  · cases ran
  · cases ran
    rfl

theorem Atomic.bind_pure {m : Compiler α} (h : Atomic m) (f : α → β) :
    Atomic (m >>= fun a => pure (f a)) := by
  intro doc e next ran
  rw [run_bind] at ran
  cases step : m.run.run doc with
  | mk answer middle =>
      rw [step] at ran
      cases answer with
      | ok a => cases ran
      | error e' =>
          cases ran
          exact h doc e _ step

end atomic

/-! ### Sequences of calls -/

/-- What one can ask of a compiler, with the structs that are there when it is asked. -/
inductive Call
  | fragment (c : Catalog) (ty : Descriptor)
  | parameter (c : Catalog) (p : Parameter)
  | body (c : Catalog) (b : Body)
  | operation (c : Catalog) (e : Endpoint)

/-- What a call computes. -/
def Call.compile (r : Registry) : Call → Compiler Json
  | .fragment c ty => Compiler.fragment r c ty
  | .parameter c p => p.operationPart r c
  | .body c b => b.operationPart r c
  | .operation c e => e.operation r c

/-- Whether a call compiles a single type. -/
def Call.isSingle : Call → Bool
  | .operation _ _ => false
  | _ => true

/-- A call and its answer. -/
structure Answered where
  call : Call
  answer : Except SetupError Json

/-- Makes calls one after the other, whether they fail or not. -/
def session (r : Registry) : List Call → Document → List Answered × Document
  | [], doc => ([], doc)
  | call :: calls, doc =>
    let step := (call.compile r).run.run doc
    let rest := session r calls step.2
    (⟨call, step.1⟩ :: rest.1, rest.2)

/-- A sequence of answered calls from which some failed calls for single types have been left out. -/
inductive Pruned : List Answered → List Answered → Prop
  | nil : Pruned [] []
  | keep (a : Answered) {log fewer : List Answered} (h : Pruned log fewer) :
    Pruned (a :: log) (a :: fewer)
  | drop {call : Call} (e : SetupError) {log fewer : List Answered} (single : call.isSingle = true)
    (h : Pruned log fewer) : Pruned (⟨call, .error e⟩ :: log) fewer

section session
variable {r : Registry}

theorem Call.sound (assembled : r.Assembled) (free : r.RefFree) :
    ∀ call : Call, Sound (call.compile r) Document.Covers
  | .fragment _ ty => sound_fragment assembled free ty
  | .parameter _ p => sound_parameter assembled free p
  | .body _ b => sound_body assembled free b
  | .operation _ e => sound_operation assembled free e

theorem Call.atomic : ∀ {call : Call}, call.isSingle = true → Atomic (call.compile r)
  | .fragment _ ty, _ => atomic_fragment ty
  | .parameter _ p, _ => (atomic_fragment p.type).bind_pure _
  | .body _ b, _ => (atomic_fragment b.type).bind_pure _

theorem session_cons {call : Call} {doc next : Document} {answer : Except SetupError Json}
    (ran : (call.compile r).run.run doc = (answer, next)) (calls : List Call) :
    session r (call :: calls) doc =
      (⟨call, answer⟩ :: (session r calls next).1, (session r calls next).2) := by
  rw [session, ran]

theorem session_sound (assembled : r.Assembled) (free : r.RefFree) {calls : List Call}
    {doc final : Document} {log : List Answered} (closed : doc.Closed)
    (h : session r calls doc = (log, final)) :
    final.Closed ∧ doc.Extends final ∧ ∀ call v, ⟨call, .ok v⟩ ∈ log → final.Covers v := by
  induction calls generalizing doc log with
  | nil =>
      cases h
      exact ⟨closed, .refl _, fun call v mem => by cases mem⟩
  | cons first calls ih =>
      cases ran : (first.compile r).run.run doc with
      | mk answer next =>
          rw [session_cons ran] at h
          cases h
          obtain ⟨closed', ext, value⟩ := first.sound assembled free doc closed answer next ran
          obtain ⟨closed'', ext', values⟩ := ih closed' rfl
          refine ⟨closed'', ext.trans ext', fun call v mem => ?_⟩
          rcases List.mem_cons.1 mem with own | mem
          · cases own
            exact (value v rfl).mono ext'
          · exact values call v mem

/-- Calls that fail without a trace can be left out: each of the others finds the document that it has
found before. -/
theorem session_of_pruned {calls : List Call} {doc final : Document} {log fewer : List Answered}
    (h : session r calls doc = (log, final)) (pruned : Pruned log fewer) :
    session r (fewer.map Answered.call) doc = (fewer, final) := by
  induction calls generalizing doc log fewer with
  | nil =>
      cases h
      cases pruned
      rfl
  | cons call calls ih =>
      cases ran : (call.compile r).run.run doc with
      | mk answer next =>
          rw [session_cons ran] at h
          cases h
          cases pruned with
          | keep _ pruned =>
              rw [List.map_cons, session_cons ran, ih rfl pruned]
          | drop e single pruned =>
              obtain rfl := Call.atomic single doc e next ran
              exact ih rfl pruned

/-- After any calls on an empty document its names have origins and schemas alike, and the references
in schemas and in all that was answered lead to schemas.  Further calls change no entry.  A call for a
single type that fails changes nothing, and the session goes the same way without it. -/
theorem session_closed (assembled : r.Assembled) (free : r.RefFree) {calls : List Call}
    {log : List Answered} {doc : Document} (h : session r calls .empty = (log, doc)) :
    doc.origins.keys = doc.schemas.keys ∧
    (∀ name schema, doc.schema? name = some schema → doc.Covers schema) ∧
    (∀ call v, ⟨call, .ok v⟩ ∈ log → doc.Covers v) ∧
    (∀ more name, name ∈ doc.names →
      (session r more doc).2.schema? name = doc.schema? name ∧
      (session r more doc).2.origin? name = doc.origin? name) ∧
    (∀ (call : Call) e next, call.isSingle = true →
      (call.compile r).run.run doc = (.error e, next) → next = doc) ∧
    ∀ fewer, Pruned log fewer → session r (fewer.map Answered.call) .empty = (fewer, doc) := by
  obtain ⟨closed, -, covered⟩ := session_sound assembled free Document.closed_empty h
  refine ⟨?_, closed.covers, covered, ?_, ?_, fun fewer => session_of_pruned h⟩
  · exact Dict.keys_eq_of_isSome_eq fun name => (closed.paired name).symm
  · intro more name mem
    obtain ⟨-, ext, -⟩ := session_sound assembled free closed (rfl : session r more doc = _)
    obtain ⟨schema, held⟩ := Document.mem_names_iff.1 mem
    obtain ⟨origin, taken⟩ := closed.paired.exists_origin? held
    rw [held, taken]
    exact ⟨ext.schemas name schema held, ext.origins name origin taken⟩
  · exact fun call e next single ran => Call.atomic single doc e next ran

end session

/-! ### Pages that link to each other -/

/-- A page with a field that is called like a reference. -/
def page : StructDef where
  origin := "site::Page"
  schemaName := none
  description := none
  fields := [⟨"$ref", .leaf .string, some "where it leads"⟩,
    ⟨"next", .optional (.recursive (some 0)), none⟩]

/-- A page with a visitor counter of a type that is not registered. -/
def counted : StructDef where
  origin := "site::Counted"
  schemaName := none
  description := none
  fields := [⟨"page", .struct 0, none⟩, ⟨"visits", .leaf ⟨"counter", .ok⟩, none⟩]

/-- The catalog of pages. -/
def site : Catalog := ⟨[page, counted]⟩

/-- A body that is a page. -/
def pageBody : Body := ⟨.struct 0, true, none, jsonContentType⟩

/-- The document of pages. -/
def siteDocument : Document :=
  Document.empty.add "Page" ⟨"site::Page", page.schema Registry.builtin site⟩

/-- The object of the body. -/
def pageBodyPart : Json :=
  .object [("required", .bool true), ("content", contentObject jsonContentType (schemaRef "Page"))]

theorem publish_page (doc : Document) (free : doc.origin? "Page" = none) (rest : List Mention) :
    doc.publish Registry.builtin site (.struct (some 0) :: rest) = (doc.add "Page"
      ⟨"site::Page", page.schema Registry.builtin site⟩).publish Registry.builtin site rest := by
  have found : site.resolve? (some 0) = some page := rfl
  have name : page.canonicalName = "Page" := rfl
  have origin : page.origin = "site::Page" := rfl
  have mentioned : page.mentions = [.leaf .string, .struct (some 0)] := rfl
  have registered : Registry.builtin.contains .string = true := rfl
  simp [Document.publish_struct, Document.publish_leaf, found, name, origin, mentioned, registered,
    free, Document.origin?_add]

theorem session_site :
    session Registry.builtin [.fragment site (.struct 1), .body site pageBody] .empty =
      ([⟨.fragment site (.struct 1), .error (.unknownLeaf "counter")⟩,
        ⟨.body site pageBody, .ok pageBodyPart⟩], siteDocument) := by
  have published : Document.empty.publish Registry.builtin site [.struct (some 0)] =
      .ok siteDocument := by
    rw [publish_page _ rfl, Document.publish_nil]
    rfl
  have refused : Document.empty.publish Registry.builtin site [.struct (some 1)] =
      .error (.unknownLeaf "counter") := by
    have found : site.resolve? (some 1) = some counted := rfl
    have mentioned : counted.mentions = [.struct (some 0), .leaf ⟨"counter", .ok⟩] := rfl
    have free : Document.empty.origin? counted.canonicalName = none := rfl
    have other : (Document.empty.add counted.canonicalName
      ⟨counted.origin, counted.schema Registry.builtin site⟩).origin? "Page" = none := rfl
    rw [Document.publish_struct, found]
    simp only [free, mentioned, List.append_nil]
    rw [publish_page _ other, Document.publish_leaf]
    rfl
  have first : (Call.compile Registry.builtin (.fragment site (.struct 1))).run.run .empty =
      (.error (.unknownLeaf "counter"), .empty) := by
    rw [Call.compile, run_fragment, Descriptor.mentions, refused]
  have second : (Call.compile Registry.builtin (.body site pageBody)).run.run .empty =
      (.ok pageBodyPart, siteDocument) := by
    rw [Call.compile, Body.operationPart, run_bind, run_fragment,
      show pageBody.type.mentions = [.struct (some 0)] from rfl, published]
    rfl
  rw [session_cons first, session_cons second]
  rfl

/-- The body is compiled as if the counted page had not been tried, and what is called `$ref` in the
schema of a page is no reference. -/
theorem session_closed_site :
    siteDocument.Covers (page.schema Registry.builtin site) ∧ siteDocument.Covers pageBodyPart ∧
    session Registry.builtin [.body site pageBody] .empty =
      ([⟨.body site pageBody, .ok pageBodyPart⟩], siteDocument) := by
  obtain ⟨-, schemas, answers, -, -, without⟩ :=
    session_closed .builtin Registry.builtin_refFree session_site
  refine ⟨schemas "Page" _ rfl, answers (.body site pageBody) _ (by simp), ?_⟩
  exact without _ (.drop _ rfl (.keep _ .nil))

end Compiler
end ApiContract
