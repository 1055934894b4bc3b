import ApiContract.Proofs.Schema.Worklist

/-! # The walk as a tree of calls

`Compiler.Walks` describes the calls of the walk without any measure: each rule says what one call asks
of the calls below it, and a derivation is a tree of calls that comes to an end.  It lists the structs
whose fields are walked over, in the order in which they are entered.

From every document there is exactly one such tree for a type, whatever circles the structs of the catalog
make, and no name is entered twice in it (`Compiler.fragment_derivation`).  The induction goes along the
names that are still free and, between two of them, along the type: a struct has claimed its name when its
fields are walked over, and where it comes up again below them it is referred to. -/

namespace ApiContract
namespace Compiler

mutual

/-- The calls of the walk over a type: the document before it, the structs that it enters, what it gives
or why it fails, and the document that it leaves. -/
inductive Walks (r : Registry) (c : Catalog) :
    Descriptor → Document → List StructDef → Except SetupError Json → Document → Prop
  | known {l : Leaf} {fragment : Json} {doc : Document} (h : r.lookup l = some fragment) :
    Walks r c (.leaf l) doc [] (.ok fragment) doc
  | unknown {l : Leaf} {doc : Document} (h : r.lookup l = none) :
    Walks r c (.leaf l) doc [] (.error (.unknownLeaf l.name)) doc
  | nullable {ty inner : Descriptor} {doc next : Document} {entered : List StructDef}
    {answer : Except SetupError Json} (h : ty.nullableInner? = some inner)
    (inside : Walks r c inner doc entered answer next) :
    Walks r c ty doc entered (answer.map Descriptor.nullable) next
  | withDefault {inner : Descriptor} {value : Json} {doc next : Document} {entered : List StructDef}
    {answer : Except SetupError Json} (inside : Walks r c inner doc entered answer next) :
    Walks r c (.withDefault inner value) doc entered answer next
  | constrained {inner : Descriptor} {con : Constraint} {doc next : Document}
    {entered : List StructDef} {answer : Except SetupError Json}
    (inside : Walks r c inner doc entered answer next) :
    Walks r c (.constrained inner con) doc entered answer next
  | sum {left right : Descriptor} {doc middle next : Document} {entered further : List StructDef}
    {a : Json} {answer : Except SetupError Json} (h : (Descriptor.sum left right).nullableInner? = none)
    (first : Walks r c left doc entered (.ok a) middle)
    (second : Walks r c right middle further answer next) :
    Walks r c (.sum left right) doc (entered ++ further)
      (answer.map fun b => .object [("anyOf", .arr [a, b])]) next
  | sumFails {left right : Descriptor} {doc next : Document} {entered : List StructDef}
    {e : SetupError} (h : (Descriptor.sum left right).nullableInner? = none)
    (first : Walks r c left doc entered (.error e) next) :
    Walks r c (.sum left right) doc entered (.error e) next
  | struct {id : StructId} {doc next : Document} {entered : List StructDef}
    {answer : Except SetupError Json} (inside : Refers r c (some id) doc entered answer next) :
    Walks r c (.struct id) doc entered answer next
  | recursive {id : Option StructId} {doc next : Document} {entered : List StructDef}
    {answer : Except SetupError Json} (inside : Refers r c id doc entered answer next) :
    Walks r c (.recursive id) doc entered answer next
  | array {element : Descriptor} {doc next : Document} {entered : List StructDef}
    {answer : Except SetupError Json} (inside : Walks r c element doc entered answer next) :
    Walks r c (.array element) doc entered
      (answer.map fun items => .object [("type", .str "array"), ("items", items)]) next
  | map {key value : Descriptor} {doc next : Document} {entered : List StructDef}
    {answer : Except SetupError Json} (inside : Walks r c value doc entered answer next) :
    Walks r c (.map key value) doc entered (answer.map fun values =>
      .object [("type", .str "object"), ("additionalProperties", values)]) next
  | record {fields : List Field} {doc next : Document} {entered : List StructDef}
    {answer : Except SetupError (List (String × Json))}
    (inside : WalksFields r c fields doc entered answer next) :
    Walks r c (.record fields) doc entered (answer.map fun properties =>
      objectSchema properties (Descriptor.requiredNames fields) none) next

/-- `Walks` for the fields of a struct or record. -/
inductive WalksFields (r : Registry) (c : Catalog) : List Field → Document → List StructDef →
    Except SetupError (List (String × Json)) → Document → Prop
  | nil {doc : Document} : WalksFields r c [] doc [] (.ok []) doc
  | cons {f : Field} {fields : List Field} {doc middle next : Document}
    {entered further : List StructDef} {property : Json}
    {answer : Except SetupError (List (String × Json))}
    (first : Walks r c f.type doc entered (.ok property) middle)
    (rest : WalksFields r c fields middle further answer next) :
    WalksFields r c (f :: fields) doc (entered ++ further)
      (answer.map ((f.name, Descriptor.describe f.description property) :: ·)) next
  | consFails {f : Field} {fields : List Field} {doc next : Document} {entered : List StructDef}
    {e : SetupError} (first : Walks r c f.type doc entered (.error e) next) :
    WalksFields r c (f :: fields) doc entered (.error e) next

/-- `Walks` for a struct.  Only the last two rules enter it. -/
inductive Refers (r : Registry) (c : Catalog) :
    Option StructId → Document → List StructDef → Except SetupError Json → Document → Prop
  | gone {id : Option StructId} {doc : Document} (h : c.resolve? id = none) :
    Refers r c id doc [] (.error .danglingReference) doc
  | again {id : Option StructId} {d : StructDef} {doc : Document} (found : c.resolve? id = some d)
    (taken : doc.origin? d.canonicalName = some d.origin) :
    Refers r c id doc [] (.ok (schemaRef d.canonicalName)) doc
  | clash {id : Option StructId} {d : StructDef} {origin : String} {doc : Document}
    (found : c.resolve? id = some d) (taken : doc.origin? d.canonicalName = some origin)
    (other : origin ≠ d.origin) :
    Refers r c id doc [] (.error (.duplicateName d.canonicalName origin d.origin)) doc
  | enter {id : Option StructId} {d : StructDef} {doc next : Document} {entered : List StructDef}
    {properties : List (String × Json)} (found : c.resolve? id = some d)
    (free : doc.origin? d.canonicalName = none)
    (inside : WalksFields r c d.fields (doc.claim d.canonicalName d.origin) entered (.ok properties) next) :
    Refers r c id doc (d :: entered) (.ok (schemaRef d.canonicalName)) (next.define d.canonicalName
      (objectSchema properties (Descriptor.requiredNames d.fields) d.description))
  | enterFails {id : Option StructId} {d : StructDef} {doc next : Document} {entered : List StructDef}
    {e : SetupError} (found : c.resolve? id = some d) (free : doc.origin? d.canonicalName = none)
    (inside : WalksFields r c d.fields (doc.claim d.canonicalName d.origin) entered (.error e) next) :
    Refers r c id doc (d :: entered) (.error e) next

end

variable {r : Registry} {c : Catalog}

/-! ### There is a tree -/

theorem run_map_eq {α β : Type} (f : α → β) (m : Compiler α) (doc : Document) :
    (f <$> m).run.run doc = ((m.run.run doc).1.map f, (m.run.run doc).2) := by
  rw [run_map]
  cases m.run.run doc with
  | mk answer next => cases answer <;> rfl

/-- A struct has a tree if its fields have one, from where its name is claimed. -/
theorem exists_refers (id : Option StructId) (doc : Document)
    (fields : ∀ d, c.resolve? id = some d → doc.origin? d.canonicalName = none →
      ∃ entered, WalksFields r c d.fields (doc.claim d.canonicalName d.origin) entered
        ((walkFields r c d.fields).run.run (doc.claim d.canonicalName d.origin)).1
        ((walkFields r c d.fields).run.run (doc.claim d.canonicalName d.origin)).2) :
    ∃ entered, Refers r c id doc entered ((structRef r c id).run.run doc).1
      ((structRef r c id).run.run doc).2 := by
  rw [run_structRef]
  cases found : c.resolve? id with
  | none => exact ⟨[], .gone found⟩
  | some d =>
      dsimp only
      cases taken : doc.origin? d.canonicalName with
      | some origin =>
          dsimp only
          split
          · next same => exact ⟨[], .again found (same ▸ taken)⟩
          · next other => exact ⟨[], .clash found taken other⟩
      | none =>
          obtain ⟨entered, inside⟩ := fields d found taken
          refine ⟨d :: entered, ?_⟩
          dsimp only
          revert inside
          cases (walkFields r c d.fields).run.run (doc.claim d.canonicalName d.origin) with
          | mk answer next =>
              cases answer with
              | ok properties => exact .enter found taken
              | error e => exact .enterFails found taken

mutual

theorem exists_walks (r : Registry) (c : Catalog) (ty : Descriptor) (doc : Document) :
    ∃ entered, Walks r c ty doc entered ((walk r c ty).run.run doc).1 ((walk r c ty).run.run doc).2 := by
  match ty with
  | .leaf l =>
      rw [walk_leaf]
      cases h : r.lookup l with
      | none => exact ⟨[], .unknown h⟩
      | some fragment => exact ⟨[], .known h⟩
  | .optional inner =>
      obtain ⟨entered, inside⟩ := exists_walks r c inner doc
      rw [walk_nullable r c rfl, run_map_eq]
      exact ⟨entered, .nullable rfl inside⟩
  | .withDefault inner value =>
      obtain ⟨entered, inside⟩ := exists_walks r c inner doc
      rw [walk_withDefault]
      exact ⟨entered, .withDefault inside⟩
  | .constrained inner con =>
      obtain ⟨entered, inside⟩ := exists_walks r c inner doc
      rw [walk_constrained]
      exact ⟨entered, .constrained inside⟩
  | .sum left right =>
      cases hn : (Descriptor.sum left right).nullableInner? with
      | some inner =>
          have smaller := Descriptor.sizeOf_lt_of_nullableInner? hn
          obtain ⟨entered, inside⟩ := exists_walks r c inner doc
          rw [walk_nullable r c hn, run_map_eq]
          exact ⟨entered, .nullable hn inside⟩
      | none =>
          have fewer := Document.untaken_walk_le r c left doc
          obtain ⟨entered, first⟩ := exists_walks r c left doc
          rw [walk_sum r c hn, run_bind]
          cases ran : (walk r c left).run.run doc with
          | mk answer middle =>
              rw [ran] at first fewer
              cases answer with
              | error e => exact ⟨entered, .sumFails hn first⟩
              | ok a =>
                  obtain ⟨further, second⟩ := exists_walks r c right middle
                  dsimp only
                  rw [run_map_eq]
                  exact ⟨entered ++ further, .sum hn first second⟩
  | .struct id =>
      rw [walk_struct]
      obtain ⟨entered, inside⟩ := exists_refers (some id) doc fun d found free =>
        exists_walksFields r c d.fields _
      exact ⟨entered, .struct inside⟩
  | .recursive id =>
      rw [walk_recursive]
      obtain ⟨entered, inside⟩ := exists_refers id doc fun d found free =>
        exists_walksFields r c d.fields _
      exact ⟨entered, .recursive inside⟩
  | .array element =>
      obtain ⟨entered, inside⟩ := exists_walks r c element doc
      rw [walk_array, run_map_eq]
      exact ⟨entered, .array inside⟩
  | .map key value =>
      obtain ⟨entered, inside⟩ := exists_walks r c value doc
      rw [walk_map, run_map_eq]
      exact ⟨entered, .map inside⟩
  | .record fields =>
      obtain ⟨entered, inside⟩ := exists_walksFields r c fields doc
      rw [walk_record, run_map_eq]
      exact ⟨entered, .record inside⟩
termination_by (Document.untaken c doc, sizeOf ty)
decreasing_by
  all_goals first
    | exact Prod.Lex.right _ smaller
    | exact Prod.Lex.right _ (by simp +arith)
    | exact Prod.Lex.right' _ fewer (by simp +arith)
    | exact Prod.Lex.left _ _ (Document.untaken_claim_lt _ (Catalog.mem_of_resolve? found) free)

theorem exists_walksFields (r : Registry) (c : Catalog) (fields : List Field) (doc : Document) :
    ∃ entered, WalksFields r c fields doc entered ((walkFields r c fields).run.run doc).1
      ((walkFields r c fields).run.run doc).2 := by
  match fields with
  | [] =>
      rw [walkFields_nil]
      exact ⟨[], .nil⟩
  | ⟨name, type, description⟩ :: fields =>
      have fewer := Document.untaken_walk_le r c type doc
      obtain ⟨entered, first⟩ := exists_walks r c type doc
      rw [walkFields_cons, run_bind]
      cases ran : (walk r c type).run.run doc with
      | mk answer middle =>
          rw [ran] at first fewer
          cases answer with
          | error e => exact ⟨entered, .consFails first⟩
          | ok property =>
              obtain ⟨further, rest⟩ := exists_walksFields r c fields middle
              dsimp only
              rw [run_map_eq]
              exact ⟨entered ++ further, .cons first rest⟩
termination_by (Document.untaken c doc, sizeOf fields)
decreasing_by
  · exact Prod.Lex.right _ (by simp +arith)
  · exact Prod.Lex.right' _ fewer (by simp +arith)

end

/-! ### There is no other tree -/

mutual

/-- A tree is determined by the type and the document before it.  The induction is on one tree; the last rule
of the other can only be the same. -/
theorem Walks.unique : ∀ {ty : Descriptor} {doc next next' : Document} {entered entered' : List StructDef}
    {answer answer' : Except SetupError Json}, Walks r c ty doc entered answer next →
    Walks r c ty doc entered' answer' next' → entered = entered' ∧ answer = answer' ∧ next = next'
  | _, _, _, _, _, _, _, _, .known h, other => by
      cases other with
      | known h' =>
          rw [h] at h'
          cases h'
          exact ⟨rfl, rfl, rfl⟩
      | unknown h' => rw [h] at h'; cases h'
      | nullable h' => cases h'
  | _, _, _, _, _, _, _, _, .unknown h, other => by
      cases other with
      | known h' => rw [h] at h'; cases h'
      | unknown h' => exact ⟨rfl, rfl, rfl⟩
      | nullable h' => cases h'
  | _, _, _, _, _, _, _, _, .nullable h inside, other => by
      cases other with
      | nullable h' inside' =>
          rw [h] at h'
          cases h'
          obtain ⟨rfl, rfl, rfl⟩ := inside.unique inside'
          exact ⟨rfl, rfl, rfl⟩
      | sum h' => rw [h] at h'; cases h'
      | sumFails h' => rw [h] at h'; cases h'
      | _ => cases h
  | _, _, _, _, _, _, _, _, .withDefault inside, other => by
      cases other with
      | withDefault inside' => exact inside.unique inside'
      | nullable h' => cases h'
  | _, _, _, _, _, _, _, _, .constrained inside, other => by
      cases other with
      | constrained inside' => exact inside.unique inside'
      | nullable h' => cases h'
  | _, _, _, _, _, _, _, _, .sum h first second, other => by
      cases other with
      | nullable h' => rw [h] at h'; cases h'
      | sum _ first' second' =>
          obtain ⟨rfl, same, rfl⟩ := first.unique first'
          cases same
          obtain ⟨rfl, rfl, rfl⟩ := second.unique second'
          exact ⟨rfl, rfl, rfl⟩
      | sumFails _ first' =>
          obtain ⟨-, same, -⟩ := first.unique first'
          cases same
  | _, _, _, _, _, _, _, _, .sumFails h first, other => by
      cases other with
      | nullable h' => rw [h] at h'; cases h'
      | sum _ first' =>
          obtain ⟨-, same, -⟩ := first.unique first'
          cases same
      | sumFails _ first' => exact first.unique first'
  | _, _, _, _, _, _, _, _, .struct inside, other => by
      cases other with
      | struct inside' => exact inside.unique inside'
      | nullable h' => cases h'
  | _, _, _, _, _, _, _, _, .recursive inside, other => by
      cases other with
      | recursive inside' => exact inside.unique inside'
      | nullable h' => cases h'
  | _, _, _, _, _, _, _, _, .array inside, other => by
      cases other with
      | array inside' =>
          obtain ⟨rfl, rfl, rfl⟩ := inside.unique inside'
          exact ⟨rfl, rfl, rfl⟩
      | nullable h' => cases h'
  | _, _, _, _, _, _, _, _, .map inside, other => by
      cases other with
      | map inside' =>
          obtain ⟨rfl, rfl, rfl⟩ := inside.unique inside'
          exact ⟨rfl, rfl, rfl⟩
      | nullable h' => cases h'
  | _, _, _, _, _, _, _, _, .record inside, other => by
      cases other with
      | record inside' =>
          obtain ⟨rfl, rfl, rfl⟩ := inside.unique inside'
          exact ⟨rfl, rfl, rfl⟩
      | nullable h' => cases h'

theorem WalksFields.unique : ∀ {fields : List Field} {doc next next' : Document}
    {entered entered' : List StructDef} {answer answer' : Except SetupError (List (String × Json))},
    WalksFields r c fields doc entered answer next →
    WalksFields r c fields doc entered' answer' next' →
      entered = entered' ∧ answer = answer' ∧ next = next'
  | _, _, _, _, _, _, _, _, .nil, other => by
      cases other
      exact ⟨rfl, rfl, rfl⟩
  | _, _, _, _, _, _, _, _, .cons first rest, other => by
      cases other with
      | cons first' rest' =>
          obtain ⟨rfl, same, rfl⟩ := first.unique first'
          cases same
          obtain ⟨rfl, rfl, rfl⟩ := rest.unique rest'
          exact ⟨rfl, rfl, rfl⟩
      | consFails first' =>
          obtain ⟨-, same, -⟩ := first.unique first'
          cases same
  | _, _, _, _, _, _, _, _, .consFails first, other => by
      cases other with
      | cons first' =>
          obtain ⟨-, same, -⟩ := first.unique first'
          cases same
      | consFails first' =>
          obtain ⟨rfl, same, rfl⟩ := first.unique first'
          cases same
          exact ⟨rfl, rfl, rfl⟩

theorem Refers.unique : ∀ {id : Option StructId} {doc next next' : Document}
    {entered entered' : List StructDef} {answer answer' : Except SetupError Json},
    Refers r c id doc entered answer next → Refers r c id doc entered' answer' next' →
      entered = entered' ∧ answer = answer' ∧ next = next'
  | _, _, _, _, _, _, _, _, .gone h, other => by
      cases other with
      | gone _ => exact ⟨rfl, rfl, rfl⟩
      | _ found => rw [h] at found; cases found
  | _, _, _, _, _, _, _, _, .again found taken, other => by
      cases other with
      | gone h => rw [found] at h; cases h
      | again found' => cases found.symm.trans found'; exact ⟨rfl, rfl, rfl⟩
      | clash found' taken' different =>
          cases found.symm.trans found'
          cases taken.symm.trans taken'
          exact absurd rfl different
      | enter found' free | enterFails found' free =>
          cases found.symm.trans found'
          cases taken.symm.trans free
  | _, _, _, _, _, _, _, _, .clash found taken different, other => by
      cases other with
      | gone h => rw [found] at h; cases h
      | again found' taken' =>
          cases found.symm.trans found'
          cases taken.symm.trans taken'
          exact absurd rfl different
      | clash found' taken' =>
          cases found.symm.trans found'
          cases taken.symm.trans taken'
          exact ⟨rfl, rfl, rfl⟩
      | enter found' free | enterFails found' free =>
          cases found.symm.trans found'
          cases taken.symm.trans free
  | _, _, _, _, _, _, _, _, .enter found free inside, other => by
      cases other with
      | gone h => rw [found] at h; cases h
      | again found' taken | clash found' taken =>
          cases found.symm.trans found'
          cases taken.symm.trans free
      | enter found' _ inside' =>
          cases found.symm.trans found'
          obtain ⟨rfl, same, rfl⟩ := inside.unique inside'
          cases same
          exact ⟨rfl, rfl, rfl⟩
      | enterFails found' _ inside' =>
          cases found.symm.trans found'
          obtain ⟨-, same, -⟩ := inside.unique inside'
          cases same
  | _, _, _, _, _, _, _, _, .enterFails found free inside, other => by
      cases other with
      | gone h => rw [found] at h; cases h
      | again found' taken | clash found' taken =>
          cases found.symm.trans found'
          cases taken.symm.trans free
      | enter found' _ inside' =>
          cases found.symm.trans found'
          obtain ⟨-, same, -⟩ := inside.unique inside'
          cases same
      | enterFails found' _ inside' =>
          cases found.symm.trans found'
          obtain ⟨rfl, same, rfl⟩ := inside.unique inside'
          cases same
          exact ⟨rfl, rfl, rfl⟩

end

/-! ### No name is entered twice -/

/-- What the structs that are entered between two documents have in common: their names were free, are
different, and are all that has been taken. -/
structure Enters (c : Catalog) (doc : Document) (entered : List StructDef) (next : Document) : Prop where
  mem : ∀ d ∈ entered, d ∈ c.structs
  distinct : (entered.map StructDef.canonicalName).Nodup
  free : ∀ d ∈ entered, doc.origin? d.canonicalName = none
  taken : ∀ d ∈ entered, next.origin? d.canonicalName = some d.origin
  others : ∀ name, (∀ d ∈ entered, d.canonicalName ≠ name) → next.origin? name = doc.origin? name
  untaken_le : entered.length + Document.untaken c next ≤ Document.untaken c doc

variable {doc middle next : Document} {entered further : List StructDef}

theorem enters_nil (c : Catalog) (doc : Document) : Enters c doc [] doc where
  mem := by simp
  distinct := List.nodup_nil
  free := by simp
  taken := by simp
  others := fun _ _ => rfl
  untaken_le := by simp

theorem Enters.ne (first : Enters c doc entered middle) (second : Enters c middle further next)
    {d e : StructDef} (hd : d ∈ entered) (he : e ∈ further) : d.canonicalName ≠ e.canonicalName := by
  intro same
  have free := second.free e he
  rw [← same, first.taken d hd] at free
  cases free

theorem Enters.append (first : Enters c doc entered middle) (second : Enters c middle further next) :
    Enters c doc (entered ++ further) next where
  mem := fun d hd => (List.mem_append.1 hd).elim (first.mem d) (second.mem d)
  distinct := by
    rw [List.map_append, List.nodup_append]
    refine ⟨first.distinct, second.distinct, ?_⟩
    intro name left other right
    obtain ⟨d, hd, rfl⟩ := List.mem_map.1 left
    obtain ⟨e, he, rfl⟩ := List.mem_map.1 right
    exact first.ne second hd he
  free := by
    intro d hd
    rcases List.mem_append.1 hd with hd | hd
    · exact first.free d hd
    · rw [← first.others _ fun e he => first.ne second he hd]
      exact second.free d hd
  taken := by
    intro d hd
    rcases List.mem_append.1 hd with hd | hd
    · rw [second.others _ fun e he => (first.ne second hd he).symm]
      exact first.taken d hd
    · exact second.taken d hd
  others := by
    intro name other
    rw [second.others name fun d hd => other d (List.mem_append_right _ hd),
      first.others name fun d hd => other d (List.mem_append_left _ hd)]
  untaken_le := by
    have le := first.untaken_le
    have le' := second.untaken_le
    rw [List.length_append]
    omega

theorem enters_claim {d : StructDef} (mem : d ∈ c.structs) (free : doc.origin? d.canonicalName = none) :
    Enters c doc [d] (doc.claim d.canonicalName d.origin) where
  mem := fun e he => List.mem_singleton.1 he ▸ mem
  distinct := by simp
  free := fun e he => List.mem_singleton.1 he ▸ free
  taken := by
    intro e he
    rw [List.mem_singleton.1 he, Document.origin?_claim, if_pos rfl]
  others := by
    intro name other
    rw [Document.origin?_claim, if_neg (other d (List.mem_singleton_self d)).symm]
  untaken_le := by
    have lt := Document.untaken_claim_lt d.origin mem free
    rw [List.length_singleton]
    omega

/-- Schemas are not looked at. -/
theorem Enters.define (h : Enters c doc entered next) (name : String) (schema : Json) :
    Enters c doc entered (next.define name schema) :=
  ⟨h.mem, h.distinct, h.free, h.taken, h.others, h.untaken_le⟩

mutual

theorem Walks.enters : ∀ {ty : Descriptor} {doc next : Document} {entered : List StructDef}
    {answer : Except SetupError Json}, Walks r c ty doc entered answer next → Enters c doc entered next
  | _, _, _, _, _, .known _ => enters_nil c _
  | _, _, _, _, _, .unknown _ => enters_nil c _
  | _, _, _, _, _, .nullable _ inside => inside.enters
  | _, _, _, _, _, .withDefault inside => inside.enters
  | _, _, _, _, _, .constrained inside => inside.enters
  | _, _, _, _, _, .sum _ first second => first.enters.append second.enters
  | _, _, _, _, _, .sumFails _ first => first.enters
  | _, _, _, _, _, .struct inside => inside.enters
  | _, _, _, _, _, .recursive inside => inside.enters
  | _, _, _, _, _, .array inside => inside.enters
  | _, _, _, _, _, .map inside => inside.enters
  | _, _, _, _, _, .record inside => inside.enters

theorem WalksFields.enters : ∀ {fields : List Field} {doc next : Document} {entered : List StructDef}
    {answer : Except SetupError (List (String × Json))},
    WalksFields r c fields doc entered answer next → Enters c doc entered next
  | _, _, _, _, _, .nil => enters_nil c _
  | _, _, _, _, _, .cons first rest => first.enters.append rest.enters
  | _, _, _, _, _, .consFails first => first.enters

theorem Refers.enters : ∀ {id : Option StructId} {doc next : Document} {entered : List StructDef}
    {answer : Except SetupError Json}, Refers r c id doc entered answer next → Enters c doc entered next
  | _, _, _, _, _, .gone _ => enters_nil c _
  | _, _, _, _, _, .again _ _ => enters_nil c _
  | _, _, _, _, _, .clash _ _ _ => enters_nil c _
  | _, _, _, _, _, .enter found free inside =>
      ((enters_claim (Catalog.mem_of_resolve? found) free).append inside.enters).define _ _
  | _, _, _, _, _, .enterFails found free inside =>
      (enters_claim (Catalog.mem_of_resolve? found) free).append inside.enters

end

/-- From any document the walk over any type is one finite tree of calls.  It enters structs whose names
were free, each name once, and all names that it takes are theirs; and so there are no more of them than
free names.  A fragment is what the walk gives, and a failure leaves no trace. -/
theorem walk_derivation (r : Registry) (c : Catalog) (ty : Descriptor) (doc : Document) :
    ∃ entered answer next,
      (∀ entered' answer' next', Walks r c ty doc entered' answer' next' ↔
        entered' = entered ∧ answer' = answer ∧ next' = next) ∧
      Enters c doc entered next ∧
      (walk r c ty).run.run doc = (answer, next) ∧
      (fragment r c ty).run.run doc = (answer, match answer with | .ok _ => next | .error _ => doc) := by
  obtain ⟨entered, tree⟩ := exists_walks r c ty doc
  cases ran : (walk r c ty).run.run doc with
  | mk answer next =>
      rw [ran] at tree
      refine ⟨entered, answer, next, ?_, tree.enters, rfl, ?_⟩
      · intro entered' answer' next'
        constructor
        · intro other
          obtain ⟨rfl, rfl, rfl⟩ := tree.unique other
          exact ⟨rfl, rfl, rfl⟩
        · rintro ⟨rfl, rfl, rfl⟩
          exact tree
      · rw [run_fragment_eq, ran]
        cases answer <;> rfl

end Compiler
end ApiContract
