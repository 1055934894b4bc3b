import ApiContract.Schema.Document

/-! # The walk of the compiler, flattened

`Document.publish` works through a list of mentions: it puts a struct and its schema into the document
at once and the mentions of the struct in front of the list.  The compiler's walk goes down instead, and
the schema of a struct comes after all that its fields lead to.  In between names are claimed whose
schemas are still missing.

The two agree (`Compiler.run_fragment`, `Document.compile_eq_publish`): they succeed together, with the
fragments that `Descriptor.fragment` describes and with one and the same document, and fail together,
with the same mistake.  The induction goes along the walk.  It compares two documents that have the
same names taken, and lets the one of `publish` be ahead in schemas, since `publish` never looks at
them (`Advances.publish_eq`, `Stops`). -/

namespace ApiContract
namespace Document

/-- Publishes everything that the open mentions reach, in the order in which it is written. -/
def publish (r : Registry) (c : Catalog) (pending : List Mention) (doc : Document) :
    Except SetupError Document :=
  match pending with
  | [] => .ok doc
  | .leaf l :: rest =>
    if r.contains l then publish r c rest doc else .error (.unknownLeaf l.name)
  | .struct id :: rest =>
    match _found : c.resolve? id with
    | none => .error .danglingReference
    | some d =>
      match _taken : doc.origin? d.canonicalName with
      | some origin =>
        if origin = d.origin then publish r c rest doc
        else .error (.duplicateName d.canonicalName origin d.origin)
      | none =>
        publish r c (d.mentions ++ rest) (doc.add d.canonicalName ⟨d.origin, d.schema r c⟩)
termination_by (untaken c doc, pending.length)
decreasing_by
  · exact Prod.Lex.right _ (by simp)
  · exact Prod.Lex.right _ (by simp)
  · exact Prod.Lex.left _ _ (untaken_claim_lt d.origin (Catalog.mem_of_resolve? _found) _taken)

section publish
variable (r : Registry) (c : Catalog)

theorem publish_nil (doc : Document) : publish r c [] doc = .ok doc := by
  rw [publish]

theorem publish_leaf (l : Leaf) (rest : List Mention) (doc : Document) :
    publish r c (.leaf l :: rest) doc =
      if r.contains l then publish r c rest doc else .error (.unknownLeaf l.name) := by
  rw [publish]

theorem publish_struct (id : Option StructId) (rest : List Mention) (doc : Document) :
    publish r c (.struct id :: rest) doc = match c.resolve? id with
      | none => .error .danglingReference
      | some d => match doc.origin? d.canonicalName with
        | some origin =>
          if origin = d.origin then publish r c rest doc
          else .error (.duplicateName d.canonicalName origin d.origin)
        | none =>
          publish r c (d.mentions ++ rest) (doc.add d.canonicalName ⟨d.origin, d.schema r c⟩) := by
  rw [publish]
  split
  · next absent => rw [absent]
  · next d found =>
    rw [found]
    dsimp only
    split
    · next origin taken => rw [taken]
    · next free => rw [free]

end publish

/-! ### Adding several structs -/

/-- The document with some structs more, each with its schema. -/
def addAll (r : Registry) (c : Catalog) (doc : Document) (ds : List StructDef) : Document :=
  ds.foldl (fun doc d => doc.add d.canonicalName ⟨d.origin, d.schema r c⟩) doc

section addAll
variable {r : Registry} {c : Catalog}

theorem addAll_append (doc : Document) (ds es : List StructDef) :
    addAll r c doc (ds ++ es) = addAll r c (addAll r c doc ds) es :=
  List.foldl_append

theorem origins_add_eq_claim {doc ahead : Document} (h : ahead.origins = doc.origins) (name : String)
    (p : Published) : (ahead.add name p).origins = (doc.claim name p.origin).origins := by
  show ahead.origins.insert _ _ = doc.origins.insert _ _
  rw [h]

theorem origins_addAll_congr {doc ahead : Document} (h : ahead.origins = doc.origins)
    (ds : List StructDef) : (addAll r c ahead ds).origins = (addAll r c doc ds).origins := by
  induction ds generalizing doc ahead with
  | nil => exact h
  | cons d ds ih => exact ih (origins_add_eq_claim h _ _)

theorem origin?_eq_none_of_addAll {doc : Document} {name : String} {ds : List StructDef}
    (h : (addAll r c doc ds).origin? name = none) : doc.origin? name = none := by
  induction ds generalizing doc with
  | nil => exact h
  | cons d ds ih =>
      have free := ih h
      rw [origin?_add] at free
      split at free
      · cases free
      · exact free

/-- A schema under a name that the structs do not have can come before them or after them. -/
theorem define_addAll (doc : Document) {name : String} (schema : Json) {ds : List StructDef}
    (other : ∀ d ∈ ds, d.canonicalName ≠ name) :
    (addAll r c doc ds).define name schema = addAll r c (doc.define name schema) ds := by
  induction ds generalizing doc with
  | nil => rfl
  | cons d ds ih =>
      have swap : (doc.add d.canonicalName ⟨d.origin, d.schema r c⟩).define name schema =
          (doc.define name schema).add d.canonicalName ⟨d.origin, d.schema r c⟩ := by
        have ne := other d List.mem_cons_self
        simp only [add, claim, define, Dict.insert_comm _ ne]
      rw [addAll, List.foldl_cons, ← addAll, ih _ fun e he => other e (List.mem_cons_of_mem _ he), swap]
      rfl

end addAll

/-! ### Agreement -/

section agreement
variable {r : Registry} {c : Catalog} {doc : Document} {ms ns : List Mention} {α β : Type}

/-- What a walk over some mentions adds to a document: structs whose names were free, which are also
what publishing adds for these mentions. -/
structure Advances (r : Registry) (c : Catalog) (ms : List Mention) (doc next : Document)
    (ds : List StructDef) : Prop where
  next_eq : next = addAll r c doc ds
  free : ∀ d ∈ ds, doc.origin? d.canonicalName = none
  publish_eq : ∀ ahead rest, ahead.origins = doc.origins →
    publish r c (ms ++ rest) ahead = publish r c rest (addAll r c ahead ds)

/-- Publishing some mentions fails, whatever follows them. -/
def Stops (r : Registry) (c : Catalog) (ms : List Mention) (doc : Document) (e : SetupError) : Prop :=
  ∀ ahead rest, ahead.origins = doc.origins → publish r c (ms ++ rest) ahead = .error e

/-- The outcome of a computation that gives a value and does what publishing some mentions does, or
fails as this fails. -/
def Agrees (r : Registry) (c : Catalog) (ms : List Mention) (a : α) (doc : Document) :
    Except SetupError α × Document → Prop
  | (.ok b, next) => b = a ∧ ∃ ds, Advances r c ms doc next ds
  | (.error e, _) => Stops r c ms doc e

theorem agrees_done (a : α) : Agrees r c [] a doc (.ok a, doc) :=
  ⟨rfl, [], rfl, by simp, fun _ _ _ => rfl⟩

theorem Agrees.map {a : α} {m : Compiler α} (h : Agrees r c ms a doc (m.run.run doc)) (f : α → β) :
    Agrees r c ms (f a) doc ((f <$> m).run.run doc) := by
  rw [Compiler.run_map]
  split
  · next b next ran =>
    rw [ran] at h
    exact ⟨congrArg f h.1, h.2⟩
  · next e next ran =>
    rw [ran] at h
    exact h

theorem Agrees.bind {a : α} {b : β} {m : Compiler α} {k : α → Compiler β}
    (first : Agrees r c ms a doc (m.run.run doc))
    (second : Agrees r c ns b (m.run.run doc).2 ((k a).run.run (m.run.run doc).2)) :
    Agrees r c (ms ++ ns) b doc ((m >>= k).run.run doc) := by
  rw [Compiler.run_bind]
  split
  · next a' next ran =>
    rw [ran] at first second
    obtain ⟨rfl, ds, advanced⟩ := first
    have same {ahead : Document} (h : ahead.origins = doc.origins) :
        (addAll r c ahead ds).origins = next.origins := by
      rw [advanced.next_eq]
      exact origins_addAll_congr h ds
    revert second
    cases (k a').run.run next with
    | mk result final =>
        cases result with
        | ok b' =>
            rintro ⟨rfl, es, further⟩
            refine ⟨rfl, ds ++ es, ?_, ?_, ?_⟩
            · rw [addAll_append, ← advanced.next_eq, ← further.next_eq]
            · intro d hd
              rcases List.mem_append.1 hd with hd | hd
              · exact advanced.free d hd
              · exact origin?_eq_none_of_addAll (advanced.next_eq ▸ further.free d hd)
            · intro ahead rest h
              rw [List.append_assoc, advanced.publish_eq ahead _ h,
                further.publish_eq _ rest (same h), addAll_append]
        | error e =>
            intro stops ahead rest h
            rw [List.append_assoc, advanced.publish_eq ahead _ h]
            exact stops _ rest (same h)
  · next e next ran =>
    rw [ran] at first
    intro ahead rest h
    rw [List.append_assoc]
    exact first ahead _ h

/-- A struct agrees if its fields do, from where its name is claimed. -/
theorem agrees_structRef {id : Option StructId}
    (fields : ∀ d, c.resolve? id = some d → doc.origin? d.canonicalName = none →
      Agrees r c d.mentions (Descriptor.properties r c d.fields)
        (doc.claim d.canonicalName d.origin)
        ((Compiler.walkFields r c d.fields).run.run (doc.claim d.canonicalName d.origin))) :
    Agrees r c [.struct id] (Descriptor.refTo (c.resolve? id)) doc
      ((Compiler.structRef r c id).run.run doc) := by
  have published (ahead : Document) (rest : List Mention) := publish_struct r c id rest ahead
  rw [Compiler.run_structRef]
  cases found : c.resolve? id with
  | none =>
      intro ahead rest _
      rw [List.singleton_append, published, found]
  | some d =>
      dsimp only
      simp only [found] at published
      have origin? {ahead : Document} (h : ahead.origins = doc.origins) :
          ahead.origin? d.canonicalName = doc.origin? d.canonicalName :=
        congrArg (fun origins : Dict String => origins.get? d.canonicalName) h
      cases taken : doc.origin? d.canonicalName with
      | some origin =>
          dsimp only
          split
          · next same =>
            refine ⟨rfl, [], rfl, by simp, fun ahead rest h => ?_⟩
            rw [List.singleton_append, published, origin? h, taken]
            exact if_pos same
          · next different =>
            intro ahead rest h
            rw [List.singleton_append, published, origin? h, taken]
            exact if_neg different
      | none =>
          dsimp only
          have inside := fields d found taken
          split
          · next properties next ran =>
            rw [ran] at inside
            obtain ⟨rfl, ds, advanced⟩ := inside
            have other : ∀ e ∈ ds, e.canonicalName ≠ d.canonicalName ∧
                doc.origin? e.canonicalName = none := by
              intro e he
              have free := advanced.free e he
              rw [origin?_claim] at free
              split at free
              · cases free
              · next ne => exact ⟨ne, free⟩
            refine ⟨rfl, d :: ds, ?_, ?_, ?_⟩
            · rw [advanced.next_eq, define_addAll _ _ fun e he => (other e he).1]
              rfl
            · intro e he
              rcases List.mem_cons.1 he with rfl | he
              · exact taken
              · exact (other e he).2
            · intro ahead rest h
              rw [List.singleton_append, published, origin? h, taken]
              exact advanced.publish_eq _ rest (origins_add_eq_claim h _ ⟨d.origin, d.schema r c⟩)
          · next e next ran =>
            rw [ran] at inside
            intro ahead rest h
            rw [List.singleton_append, published, origin? h, taken]
            exact inside _ rest (origins_add_eq_claim h _ ⟨d.origin, d.schema r c⟩)

theorem untaken_walk_le (r : Registry) (c : Catalog) (ty : Descriptor) (doc : Document) :
    untaken c ((Compiler.walk r c ty).run.run doc).2 ≤ untaken c doc :=
  (doc.walk r c ty).untaken_le

mutual

theorem agrees_walk (r : Registry) (c : Catalog) (ty : Descriptor) (doc : Document) :
    Agrees r c ty.mentions (ty.fragment r c) doc ((Compiler.walk r c ty).run.run doc) := by
  match ty with
  | .leaf l =>
      rw [Compiler.walk_leaf, Descriptor.fragment, Descriptor.mentions]
      cases known : r.lookup l with
      | none =>
          intro ahead rest _
          rw [List.singleton_append, publish_leaf, Registry.contains, known]
          rfl
      | some fragment =>
          refine ⟨rfl, [], rfl, by simp, fun ahead rest _ => ?_⟩
          rw [List.singleton_append, publish_leaf, Registry.contains, known]
          rfl
  | .optional inner =>
      rw [Compiler.walk_nullable r c rfl]
      exact (agrees_walk r c inner doc).map Descriptor.nullable
  | .withDefault inner value =>
      rw [Compiler.walk_withDefault]
      exact agrees_walk r c inner doc
  | .constrained inner con =>
      rw [Compiler.walk_constrained]
      exact agrees_walk r c inner doc
  | .sum left right =>
      cases hn : (Descriptor.sum left right).nullableInner? with
      | some inner =>
          rw [Compiler.walk_nullable r c hn, Descriptor.fragment_nullable hn,
            Descriptor.mentions_nullable hn]
          have smaller := Descriptor.sizeOf_lt_of_nullableInner? hn
          exact (agrees_walk r c inner doc).map Descriptor.nullable
      | none =>
          have fewer := untaken_walk_le r c left doc
          rw [Compiler.walk_sum r c hn, Descriptor.fragment_sum hn, Descriptor.mentions_sum hn]
          exact (agrees_walk r c left doc).bind ((agrees_walk r c right _).map _)
  | .struct id =>
      rw [Compiler.walk_struct]
      exact agrees_structRef fun d found free => agrees_walkFields r c d.fields _
  | .recursive id =>
      rw [Compiler.walk_recursive]
      exact agrees_structRef fun d found free => agrees_walkFields r c d.fields _
  | .array element =>
      rw [Compiler.walk_array]
      exact (agrees_walk r c element doc).map _
  | .map key value =>
      rw [Compiler.walk_map]
      exact (agrees_walk r c value doc).map _
  | .record fields =>
      rw [Compiler.walk_record]
      exact (agrees_walkFields r c fields doc).map _
termination_by (untaken c doc, sizeOf ty)
decreasing_by
  all_goals first
    | exact Prod.Lex.right _ smaller
    | exact Prod.Lex.right _ (by simp +arith)
    | exact Prod.Lex.right' _ fewer (by simp +arith)
    | exact Prod.Lex.left _ _ (untaken_claim_lt _ (Catalog.mem_of_resolve? found) free)

theorem agrees_walkFields (r : Registry) (c : Catalog) (fields : List Field) (doc : Document) :
    Agrees r c (Descriptor.fieldMentions fields) (Descriptor.properties r c fields) doc
      ((Compiler.walkFields r c fields).run.run doc) := by
  match fields with
  | [] =>
      rw [Compiler.walkFields_nil]
      exact agrees_done []
  | ⟨name, type, description⟩ :: fields =>
      have fewer := untaken_walk_le r c type doc
      rw [Compiler.walkFields_cons]
      exact (agrees_walk r c type doc).bind ((agrees_walkFields r c fields _).map _)
termination_by (untaken c doc, sizeOf fields)
decreasing_by
  · exact Prod.Lex.right _ (by simp +arith)
  · exact Prod.Lex.right' _ fewer (by simp +arith)

end

end agreement

/-! ### What follows for whole computations -/

theorem Agrees.run_eq {α : Type} {r : Registry} {c : Catalog} {ms : List Mention} {a : α}
    {doc : Document} {m : Compiler α} (h : Agrees r c ms a doc (m.run.run doc)) :
    match publish r c ms doc with
    | .ok final => m.run.run doc = (.ok a, final)
    | .error e => ∃ next, m.run.run doc = (.error e, next) := by
  cases ran : m.run.run doc with
  | mk result next =>
      rw [ran] at h
      cases result with
      | ok b =>
          obtain ⟨rfl, ds, advanced⟩ := h
          have published := advanced.publish_eq doc [] rfl
          rw [List.append_nil, publish_nil, ← advanced.next_eq] at published
          rw [published]
      | error e =>
          have stops := h doc [] rfl
          rw [List.append_nil] at stops
          rw [stops]
          exact ⟨next, rfl⟩

theorem compile_eq_publish (r : Registry) (c : Catalog) (roots : List Descriptor) :
    compile r c roots = publish r c (roots.flatMap Descriptor.mentions) empty := by
  have agrees (doc : Document) : Agrees r c (roots.flatMap Descriptor.mentions) () doc
      ((roots.forM fun root => discard (Compiler.walk r c root)).run.run doc) := by
    induction roots generalizing doc with
    | nil => exact agrees_done ()
    | cons root roots ih =>
        rw [List.flatMap_cons]
        exact ((agrees_walk r c root doc).map fun _ => ()).bind (ih _)
  have run := (agrees empty).run_eq
  unfold compile
  cases published : publish r c (roots.flatMap Descriptor.mentions) empty with
  | ok final =>
      rw [published] at run
      rw [run]
  | error e =>
      rw [published] at run
      obtain ⟨next, ran⟩ := run
      rw [ran]

end Document

namespace Compiler

/-- A fragment publishes what its type mentions, or nothing if that fails. -/
theorem run_fragment (r : Registry) (c : Catalog) (ty : Descriptor) (doc : Document) :
    (Compiler.fragment r c ty).run.run doc = match doc.publish r c ty.mentions with
      | .ok doc => (.ok (ty.fragment r c), doc)
      | .error e => (.error e, doc) := by
  have run := (Document.agrees_walk r c ty doc).run_eq
  rw [run_fragment_eq]
  cases published : doc.publish r c ty.mentions with
  | ok final =>
      rw [published] at run
      rw [run]
  | error e =>
      rw [published] at run
      obtain ⟨next, ran⟩ := run
      rw [ran]

end Compiler
end ApiContract
