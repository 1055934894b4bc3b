import ApiContract.Schema.Fragment

/-! # Schema documents

A document holds struct schemas by name, and by the same names the origins of the structs.

`Document.walk` writes the fragment of a type and adds the schemas of the structs that it comes
across.  A struct claims its name before its fields are written, so one that leads back to itself is
referred to and not written again.  Until its fields are written, its name has an origin and no
schema; a walk that fails leaves it so.

The walk ends although structs may refer to each other in circles: the fields of a struct are written
only if its name is free, and then fewer names of the catalog are free.

`Compiler` carries the document through a sequence of steps.  Its steps `Compiler.walk`,
`Compiler.structRef` and `Compiler.walkFields` satisfy the equations below, and nothing else need be
known of the walk.  A failed `Compiler.fragment` leaves the document as it found it. -/

namespace ApiContract

/-- A published schema and the origin of its struct. -/
structure Published where
  origin : String
  schema : Json

/-- The schemas and the origins of structs, by name. -/
structure Document where
  schemas : Dict Json
  origins : Dict String

namespace Document

/-- Nothing published. -/
def empty : Document := ⟨Dict.empty, Dict.empty⟩

/-- The schema under a name. -/
def schema? (doc : Document) (name : String) : Option Json := doc.schemas.get? name

/-- The origin of the struct that a name is taken by. -/
def origin? (doc : Document) (name : String) : Option String := doc.origins.get? name

/-- The schemas whose structs are known. -/
def published (doc : Document) : Dict Published :=
  doc.schemas.filterMap fun name schema => (doc.origin? name).map (⟨·, schema⟩)

/-- The names of the schemas, in order. -/
def names (doc : Document) : List String := doc.schemas.keys

/-- How many schemas there are. -/
def size (doc : Document) : Nat := doc.schemas.size

/-- The schemas as an object. -/
def toJson (doc : Document) : Json := .ofDict doc.schemas

/-- Takes a name for the struct of an origin. -/
def claim (doc : Document) (name origin : String) : Document :=
  { doc with origins := doc.origins.insert name origin }

/-- Puts a schema under a name. -/
def define (doc : Document) (name : String) (schema : Json) : Document :=
  { doc with schemas := doc.schemas.insert name schema }

/-- The document with one struct more. -/
def add (doc : Document) (name : String) (p : Published) : Document :=
  (doc.claim name p.origin).define name p.schema

@[simp] theorem origin?_claim (doc : Document) (name key origin : String) :
    (doc.claim name origin).origin? key = if key = name then some origin else doc.origin? key :=
  Dict.get?_insert doc.origins name key origin

@[simp] theorem origin?_define (doc : Document) (name key : String) (schema : Json) :
    (doc.define name schema).origin? key = doc.origin? key := rfl

@[simp] theorem schema?_claim (doc : Document) (name key origin : String) :
    (doc.claim name origin).schema? key = doc.schema? key := rfl

@[simp] theorem schema?_define (doc : Document) (name key : String) (schema : Json) :
    (doc.define name schema).schema? key = if key = name then some schema else doc.schema? key :=
  Dict.get?_insert doc.schemas name key schema

theorem origin?_add (doc : Document) (name key : String) (p : Published) :
    (doc.add name p).origin? key = if key = name then some p.origin else doc.origin? key := by
  rw [add, origin?_define, origin?_claim]

theorem schema?_add (doc : Document) (name key : String) (p : Published) :
    (doc.add name p).schema? key = if key = name then some p.schema else doc.schema? key := by
  rw [add, schema?_define, schema?_claim]

theorem get?_published (doc : Document) (name : String) : doc.published.get? name =
    (doc.schema? name).bind fun schema => (doc.origin? name).map (⟨·, schema⟩) :=
  Dict.get?_filterMap _ _ name

/-! ### The walk -/

/-- How many structs of a catalog have names that are not taken. -/
def untaken (c : Catalog) (doc : Document) : Nat :=
  c.structs.countP fun d => (doc.origin? d.canonicalName).isNone

theorem untaken_claim_lt {c : Catalog} {doc : Document} {d : StructDef} (origin : String)
    (mem : d ∈ c.structs) (free : doc.origin? d.canonicalName = none) :
    untaken c (doc.claim d.canonicalName origin) < untaken c doc := by
  have stays (e : StructDef) : ((doc.claim d.canonicalName origin).origin? e.canonicalName).isNone →
      (doc.origin? e.canonicalName).isNone := by
    rw [origin?_claim]; split <;> simp
  have taken : ((doc.claim d.canonicalName origin).origin? d.canonicalName).isNone = false := by
    simp
  unfold untaken
  generalize c.structs = structs at mem
  induction structs with
  | nil => cases mem
  | cons first rest ih =>
    simp only [List.countP_cons]
    rcases List.mem_cons.1 mem with rfl | mem
    · have le := List.countP_mono_left (l := rest) fun e _ h => stays e h
      simp only [taken, free, Option.isNone_none, Bool.false_eq_true, if_false, if_true]; omega
    · have := ih mem
      by_cases h : ((doc.claim d.canonicalName origin).origin? first.canonicalName).isNone = true
      · simp only [h, stays first h]; omega
      · simp only [h, Bool.false_eq_true, if_false]; omega

/-- What a walk gives and leaves behind.  No name has become free. -/
structure Walk (c : Catalog) (doc : Document) (α : Type) where
  result : Except SetupError α
  next : Document
  untaken_le : untaken c next ≤ untaken c doc

namespace Walk

variable {α β : Type} {c : Catalog} {doc : Document}

/-- The result with the document that is left. -/
def outcome (w : Walk c doc α) : Except SetupError α × Document := (w.result, w.next)

/-- Ends with a value. -/
def done (a : α) : Walk c doc α := ⟨.ok a, doc, Nat.le_refl _⟩

/-- Ends with a mistake. -/
def fail (e : SetupError) : Walk c doc α := ⟨.error e, doc, Nat.le_refl _⟩

/-- Changes the value. -/
def map (f : α → β) (w : Walk c doc α) : Walk c doc β := { w with result := w.result.map f }

/-- Goes on from the document that a walk leaves, unless the walk fails. -/
def andThen (w : Walk c doc α)
    (k : (a : α) → (next : Document) → untaken c next ≤ untaken c doc → Walk c next β) :
    Walk c doc β :=
  match w.result with
  | .ok a =>
    let v := k a w.next w.untaken_le
    ⟨v.result, v.next, Nat.le_trans v.untaken_le w.untaken_le⟩
  | .error e => ⟨.error e, w.next, w.untaken_le⟩

/-- Claims a name, goes on, and puts the schema that comes out under the name. -/
def defining (name origin : String) (le : untaken c (doc.claim name origin) ≤ untaken c doc)
    (w : Walk c (doc.claim name origin) Json) : Walk c doc Json :=
  match w.result with
  | .ok schema => ⟨.ok (schemaRef name), w.next.define name schema, Nat.le_trans w.untaken_le le⟩
  | .error e => ⟨.error e, w.next, Nat.le_trans w.untaken_le le⟩

end Walk

mutual

/-- Writes the fragment of a type. -/
def walk (r : Registry) (c : Catalog) (ty : Descriptor) (doc : Document) : Walk c doc Json :=
  match ty with
  | .leaf l =>
    match r.lookup l with
    | some fragment => .done fragment
    | none => .fail (.unknownLeaf l.name)
  | .optional inner => (walk r c inner doc).map Descriptor.nullable
  | .withDefault inner _ => walk r c inner doc
  | .constrained inner _ => walk r c inner doc
  | .sum left right =>
    if right.isAbsence then (walk r c left doc).map Descriptor.nullable
    else if left.isAbsence then (walk r c right doc).map Descriptor.nullable
    else (walk r c left doc).andThen fun a next _fewer =>
      (walk r c right next).map fun b => .object [("anyOf", .arr [a, b])]
  | .struct id => structRef r c (some id) doc
  | .recursive id => structRef r c id doc
  | .array element =>
    (walk r c element doc).map fun items => .object [("type", .str "array"), ("items", items)]
  | .map _ value =>
    (walk r c value doc).map fun values =>
      .object [("type", .str "object"), ("additionalProperties", values)]
  | .record fields =>
    (walkFields r c fields doc).map fun properties =>
      objectSchema properties (Descriptor.requiredNames fields) none
termination_by (untaken c doc, sizeOf ty)
decreasing_by
  all_goals first
    | exact Prod.Lex.right _ (by simp +arith)
    | exact Prod.Lex.right' _ _fewer (by simp +arith)

/-- Writes the properties of the fields of a struct or record. -/
def walkFields (r : Registry) (c : Catalog) (fields : List Field) (doc : Document) :
    Walk c doc (List (String × Json)) :=
  match fields with
  | [] => .done []
  | ⟨name, type, description⟩ :: fields =>
    (walk r c type doc).andThen fun property next _fewer =>
      (walkFields r c fields next).map ((name, Descriptor.describe description property) :: ·)
termination_by (untaken c doc, sizeOf fields)
decreasing_by
  · exact Prod.Lex.right _ (by simp +arith)
  · exact Prod.Lex.right' _ _fewer (by simp +arith)

/-- Refers to a struct, whose schema is written if its name is free. -/
def structRef (r : Registry) (c : Catalog) (id : Option StructId) (doc : Document) :
    Walk c doc Json :=
  match _found : c.resolve? id with
  | none => .fail .danglingReference
  | some d =>
    match _taken : doc.origin? d.canonicalName with
    | some origin =>
      if origin = d.origin then .done (schemaRef d.canonicalName)
      else .fail (.duplicateName d.canonicalName origin d.origin)
    | none =>
      have fewer := untaken_claim_lt d.origin (Catalog.mem_of_resolve? _found) _taken
      .defining d.canonicalName d.origin (Nat.le_of_lt fewer) <|
        (walkFields r c d.fields (doc.claim d.canonicalName d.origin)).map fun properties =>
          objectSchema properties (Descriptor.requiredNames d.fields) d.description
termination_by (untaken c doc, 0)
decreasing_by exact Prod.Lex.left _ _ fewer

end

end Document

/-- A computation that may publish schemas and may fail. -/
abbrev Compiler := ExceptT SetupError (StateM Document)

namespace Compiler

variable {α β : Type}

/-- The computation of a walk from any document. -/
def ofWalk {c : Catalog} (w : (doc : Document) → Document.Walk c doc α) : Compiler α :=
  ExceptT.mk fun doc => (w doc).outcome

variable (r : Registry) (c : Catalog)

/-- Writes the fragment of a type and publishes the structs that it comes across. -/
def walk (ty : Descriptor) : Compiler Json := ofWalk (Document.walk r c ty)

/-- `Compiler.walk` for the fields of a struct or record. -/
def walkFields (fields : List Field) : Compiler (List (String × Json)) :=
  ofWalk (Document.walkFields r c fields)

/-- `Compiler.walk` for a struct. -/
def structRef (id : Option StructId) : Compiler Json := ofWalk (Document.structRef r c id)

/-- Writes the fragment of a type like `Compiler.walk`; a failure is taken back. -/
def fragment (ty : Descriptor) : Compiler Json := do
  let checkpoint ← get
  tryCatch (walk r c ty) fun e => do
    set checkpoint
    throw e

end Compiler

/-- The document of the structs that some types reach. -/
def Document.compile (r : Registry) (c : Catalog) (roots : List Descriptor) :
    Except SetupError Document :=
  match (roots.forM fun root => discard (Compiler.walk r c root)).run.run .empty with
  | (.ok (), doc) => .ok doc
  | (.error e, _) => .error e

namespace Compiler

/-! ### Running a computation -/

section run
variable {α β : Type} (doc : Document)

@[simp] theorem run_pure (a : α) : (pure a : Compiler α).run.run doc = (.ok a, doc) := rfl

@[simp] theorem run_throw (e : SetupError) :
    (throw e : Compiler α).run.run doc = (.error e, doc) := rfl

theorem run_bind (m : Compiler α) (f : α → Compiler β) :
    (m >>= f).run.run doc = match m.run.run doc with
      | (.ok a, next) => (f a).run.run next
      | (.error e, next) => (.error e, next) := by
  simp only [ExceptT.run, StateT.run, bind, ExceptT.bind, ExceptT.mk, StateT.bind]
  cases m doc with
  | mk result next => cases result <;> rfl

theorem run_map (f : α → β) (m : Compiler α) :
    (f <$> m).run.run doc = match m.run.run doc with
      | (.ok a, next) => (.ok (f a), next)
      | (.error e, next) => (.error e, next) := by
  simp only [ExceptT.run, StateT.run, Functor.map, ExceptT.map, ExceptT.mk, bind, StateT.bind]
  cases m doc with
  | mk result next => cases result <;> rfl

/-- A failed fragment leaves the document as it was. -/
theorem run_fragment_eq (r : Registry) (c : Catalog) (ty : Descriptor) :
    (fragment r c ty).run.run doc = match (walk r c ty).run.run doc with
      | (.ok fragment, next) => (.ok fragment, next)
      | (.error e, _) => (.error e, doc) := by
  show (tryCatch (walk r c ty) _ : Compiler Json).run.run doc = _
  simp only [tryCatch, tryCatchThe, MonadExceptOf.tryCatch, ExceptT.tryCatch, ExceptT.run, StateT.run,
    ExceptT.mk, bind, StateT.bind]
  cases walk r c ty doc with
  | mk result next => cases result <;> rfl

end run

/-! ### The equations of the walk -/

theorem ext_run {α : Type} {m n : Compiler α} (h : ∀ doc, m.run.run doc = n.run.run doc) : m = n :=
  funext h

section ofWalk
variable {α β : Type} {c : Catalog}

theorem run_ofWalk (w : (doc : Document) → Document.Walk c doc α) (doc : Document) :
    (ofWalk w).run.run doc = (w doc).outcome := rfl

theorem ofWalk_congr {w v : (doc : Document) → Document.Walk c doc α} (h : ∀ doc, w doc = v doc) :
    ofWalk w = ofWalk v :=
  congrArg ofWalk (funext h)

theorem ofWalk_map (f : α → β) (w : (doc : Document) → Document.Walk c doc α) :
    ofWalk (fun doc => (w doc).map f) = f <$> ofWalk w := by
  refine ext_run fun doc => ?_
  rw [run_map, run_ofWalk, run_ofWalk, Document.Walk.map, Document.Walk.outcome,
    Document.Walk.outcome]
  cases (w doc).result <;> rfl

theorem ofWalk_andThen (w : (doc : Document) → Document.Walk c doc α)
    (k : α → (doc : Document) → Document.Walk c doc β) :
    ofWalk (fun doc => (w doc).andThen fun a next _ => k a next) =
      ofWalk w >>= fun a => ofWalk (k a) := by
  refine ext_run fun doc => ?_
  rw [run_bind, run_ofWalk, run_ofWalk, Document.Walk.andThen, Document.Walk.outcome.eq_def (w doc)]
  split <;> next h => rw [h]; rfl

end ofWalk

variable (r : Registry) (c : Catalog)

theorem walk_leaf (l : Leaf) : walk r c (.leaf l) = match r.lookup l with
    | some fragment => pure fragment
    | none => throw (.unknownLeaf l.name) := by
  refine ext_run fun doc => ?_
  rw [walk, run_ofWalk, Document.walk]
  cases r.lookup l <;> rfl

theorem walk_nullable {ty inner : Descriptor} (h : ty.nullableInner? = some inner) :
    walk r c ty = Descriptor.nullable <$> walk r c inner := by
  rw [walk, walk, ← ofWalk_map]
  refine ofWalk_congr fun doc => ?_
  rcases Descriptor.nullableInner?_eq_some h with rfl | ⟨right, rfl, hr⟩ | ⟨left, rfl, hr, hl⟩
  · rw [Document.walk]
  · rw [Document.walk, if_pos hr]
  · rw [Document.walk, hr, if_neg Bool.false_ne_true, if_pos hl]

theorem walk_sum {left right : Descriptor} (h : (Descriptor.sum left right).nullableInner? = none) :
    walk r c (.sum left right) = walk r c left >>= fun a =>
      (fun b => Json.object [("anyOf", .arr [a, b])]) <$> walk r c right := by
  obtain ⟨hl, hr⟩ := Descriptor.nullableInner?_sum_eq_none h
  simp only [walk, ← ofWalk_map]
  rw [← ofWalk_andThen]
  refine ofWalk_congr fun doc => ?_
  rw [Document.walk, hr, if_neg Bool.false_ne_true, hl, if_neg Bool.false_ne_true]

theorem walk_withDefault (inner : Descriptor) (value : Json) :
    walk r c (.withDefault inner value) = walk r c inner :=
  ofWalk_congr fun doc => by rw [Document.walk]

theorem walk_constrained (inner : Descriptor) (con : Constraint) :
    walk r c (.constrained inner con) = walk r c inner :=
  ofWalk_congr fun doc => by rw [Document.walk]

theorem walk_struct (id : StructId) : walk r c (.struct id) = structRef r c (some id) :=
  ofWalk_congr fun doc => by rw [Document.walk]

theorem walk_recursive (id : Option StructId) : walk r c (.recursive id) = structRef r c id :=
  ofWalk_congr fun doc => by rw [Document.walk]

theorem walk_array (element : Descriptor) : walk r c (.array element) =
    (fun items => .object [("type", .str "array"), ("items", items)]) <$> walk r c element := by
  rw [walk, walk, ← ofWalk_map]
  exact ofWalk_congr fun doc => by rw [Document.walk]

theorem walk_map (key value : Descriptor) : walk r c (.map key value) =
    (fun values => .object [("type", .str "object"), ("additionalProperties", values)]) <$>
      walk r c value := by
  rw [walk, walk, ← ofWalk_map]
  exact ofWalk_congr fun doc => by rw [Document.walk]

theorem walk_record (fields : List Field) : walk r c (.record fields) =
    (fun properties => objectSchema properties (Descriptor.requiredNames fields) none) <$>
      walkFields r c fields := by
  rw [walk, walkFields, ← ofWalk_map]
  exact ofWalk_congr fun doc => by rw [Document.walk]

theorem walkFields_nil : walkFields r c [] = pure [] :=
  ext_run fun doc => by rw [walkFields, run_ofWalk, Document.walkFields]; rfl

theorem walkFields_cons (f : Field) (fields : List Field) : walkFields r c (f :: fields) =
    walk r c f.type >>= fun property =>
      ((f.name, Descriptor.describe f.description property) :: ·) <$> walkFields r c fields := by
  cases f with
  | mk name type description =>
    simp only [walkFields, walk, ← ofWalk_map]
    rw [← ofWalk_andThen]
    exact ofWalk_congr fun doc => by rw [Document.walkFields]

/-- A struct with a free name claims it, writes its fields, and only then has its schema. -/
theorem run_structRef (id : Option StructId) (doc : Document) :
    (structRef r c id).run.run doc = match c.resolve? id with
      | none => (.error .danglingReference, doc)
      | some d => match doc.origin? d.canonicalName with
        | some origin =>
          if origin = d.origin then (.ok (schemaRef d.canonicalName), doc)
          else (.error (.duplicateName d.canonicalName origin d.origin), doc)
        | none => match (walkFields r c d.fields).run.run (doc.claim d.canonicalName d.origin) with
          | (.ok properties, next) => (.ok (schemaRef d.canonicalName), next.define d.canonicalName
              (objectSchema properties (Descriptor.requiredNames d.fields) d.description))
          | (.error e, next) => (.error e, next) := by
  rw [structRef, run_ofWalk, Document.structRef]
  split
  · next absent => rw [absent]; rfl
  · next d found =>
    conv => rhs; rw [found]
    dsimp only
    split
    · next origin taken =>
      conv => rhs; rw [taken]
      split
      · next same => exact (if_pos same).symm
      · next different => exact (if_neg different).symm
    · next free =>
      conv => rhs; rw [free]
      rw [walkFields, run_ofWalk]
      simp only [Document.Walk.defining, Document.Walk.map, Document.Walk.outcome]
      cases (Document.walkFields r c d.fields (doc.claim d.canonicalName d.origin)).result <;> rfl

end Compiler
end ApiContract
