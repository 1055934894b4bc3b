import ApiContract.Coerce
import ApiContract.Proofs.Reach
import Mathlib.Data.List.Chain
import Mathlib.Logic.Function.Iterate

/-! # How deep coercion goes

`Descriptor.coerceStep` is one call of coercion with the calls below it in the hands of another reader;
coercion is what it is when these are coercion again (`coerceStep_coerce`).  `Calls` are the calls below
one: `Descends` those that stay in the type, with the value or something in it, and `Unfolds` those that go
on at the fields of a struct or record.

What is passed on is a smaller type, and a value that is no larger; what is unfolded is a smaller value,
at a type that may be any of the catalog.  So there is a bound, which counts the values inside each other
and for each of them the types inside each other (`callDepth`), and coercion that is cut off below it does
not notice (`coerce_terminates`), whatever circles the structs make. -/

namespace ApiContract

/-! ### Heights -/

namespace Json

mutual

/-- How many lists and objects stand inside each other. -/
def height : Json → Nat
  | .arr items => itemsHeight items + 1
  | .obj members => membersHeight members + 1
  | _ => 0
termination_by structural v => v

/-- The greatest height of some items. -/
def itemsHeight : List Json → Nat
  | [] => 0
  | v :: items => max (height v) (itemsHeight items)
termination_by structural items => items

/-- The greatest height of the values of some members. -/
def membersHeight : List (String × Json) → Nat
  | [] => 0
  | m :: members => max (memberHeight m) (membersHeight members)
termination_by structural members => members

/-- The height of the value of a member. -/
def memberHeight : String × Json → Nat
  | (_, v) => height v
termination_by structural m => m

end

theorem height_item_lt {x : Json} {items : List Json} (h : x ∈ items) :
    x.height < (Json.arr items).height := by
  rw [height]
  induction items with
  | nil => cases h
  | cons v items ih =>
      rw [itemsHeight]
      rcases List.mem_cons.1 h with rfl | h
      · omega
      · have := ih h
        omega

theorem height_member_lt {key : String} {x : Json} {members : List (String × Json)}
    (h : (key, x) ∈ members) : x.height < (Json.obj members).height := by
  rw [height]
  induction members with
  | nil => cases h
  | cons m members ih =>
      rw [membersHeight]
      rcases List.mem_cons.1 h with rfl | h
      · rw [memberHeight]
        omega
      · have := ih h
        omega

end Json

namespace Descriptor

mutual

/-- How many types stand inside each other, where structs are not looked into. -/
def height : Descriptor → Nat
  | .leaf _ => 0
  | .optional inner => height inner + 1
  | .withDefault inner _ => height inner + 1
  | .constrained inner _ => height inner + 1
  | .sum left right => max (height left) (height right) + 1
  | .struct _ => 0
  | .recursive _ => 0
  | .array element => height element + 1
  | .map key value => max (height key) (height value) + 1
  | .record fields => fieldsHeight fields + 1
termination_by structural ty => ty

/-- The greatest height of the types of some fields. -/
def fieldsHeight : List Field → Nat
  | [] => 0
  | f :: fields => max (fieldHeight f) (fieldsHeight fields)
termination_by structural fields => fields

/-- The height of the type of a field. -/
def fieldHeight : Field → Nat
  | ⟨_, type, _⟩ => height type
termination_by structural field => field

end

theorem height_type_le {f : Field} {fields : List Field} (h : f ∈ fields) :
    f.type.height ≤ fieldsHeight fields := by
  induction fields with
  | nil => cases h
  | cons g fields ih =>
      rw [fieldsHeight]
      rcases List.mem_cons.1 h with rfl | h
      · cases f
        exact Nat.le_max_left _ _
      · exact Nat.le_trans (ih h) (Nat.le_max_right _ _)

theorem height_lt_of_nullableInner? {ty inner : Descriptor} (h : ty.nullableInner? = some inner) :
    inner.height < ty.height := by
  rcases nullableInner?_eq_some h with rfl | ⟨right, rfl, -⟩ | ⟨left, rfl, -, -⟩
  all_goals rw [height]; omega

end Descriptor

/-- The greatest height of the types of fields of structs. -/
def Catalog.height (c : Catalog) : Nat :=
  (c.structs.map fun d => Descriptor.fieldsHeight d.fields).foldr max 0

theorem Catalog.fieldsHeight_le {c : Catalog} {d : StructDef} (h : d ∈ c.structs) :
    Descriptor.fieldsHeight d.fields ≤ c.height := by
  unfold Catalog.height
  generalize c.structs = structs at h
  induction structs with
  | nil => cases h
  | cons e structs ih =>
      simp only [List.map_cons, List.foldr_cons]
      rcases List.mem_cons.1 h with rfl | h
      · exact Nat.le_max_left _ _
      · exact Nat.le_trans (ih h) (Nat.le_max_right _ _)

namespace Descriptor

/-! ### One call -/

/-- One reading of the fields of a struct or record, with the readings of their values in the hands of
another reader. -/
def fieldsStep (read : Descriptor → Json → Checked Json) (fields : List Field) (v : Json) :
    Checked Json :=
  match v with
  | .obj members =>
    (Checked.all (fields.map fun f =>
      fieldResult f ((members.lookup f.name).map (read f.type)))).map
      fun parts => .object (parts.filterMap id)
  | _ => Checked.fail "must be an object"

/-- One call of coercion, with the calls below it in the hands of another reader. -/
def coerceStep (c : Catalog) (read : Descriptor → Json → Checked Json) (ty : Descriptor) (v : Json) :
    Checked Json :=
  match ty with
  | .leaf l => (l.read v).mapError fun message => [.whole message]
  | .optional inner => if inner.meansNull v then .ok .null else read inner v
  | .withDefault inner fallback => if v.isNull then .ok fallback else read inner v
  | .constrained inner con => read inner v >>= inner.checkConstraint con
  | .sum left right =>
    match (sum left right).nullableInner? with
    | some inner => if inner.meansNull v then .ok .null else read inner v
    | none => match read left v with
      | .ok w => .ok w
      | .error _ => match read right v with
        | .ok w => .ok w
        | .error _ => Checked.fail "does not match any alternative"
  | .struct id => match c.find? id with
    | some d => fieldsStep read d.fields v
    | none => Checked.fail SetupError.danglingReference.message
  | .recursive id => match c.resolve? id with
    | some d => fieldsStep read d.fields v
    | none => Checked.fail SetupError.danglingReference.message
  | .array element => match v with
    | .arr items =>
      (Checked.all (items.mapIdx fun i x => (read element x).nest (indexPath i))).map .arr
    | _ => Checked.fail "must be an array"
  | .map key value => match v with
    | .obj members =>
      (Checked.all (members.map fun m => entryResult m.1 (read key (.str m.1)) (read value m.2))).map
        .object
    | _ => Checked.fail "must be an object"
  | .record fields => fieldsStep read fields v

theorem fieldsStep_coerce (c : Catalog) (fields : List Field) (v : Json) :
    fieldsStep (coerce c) fields v = coerceFields c fields v := by
  cases v with
  | obj members => rw [coerceFields_obj, fieldsStep]
  | _ => rw [coerceFields, fieldsStep]; all_goals simp

theorem coerceStep_coerce (c : Catalog) : coerceStep c (coerce c) = coerce c := by
  funext ty v
  cases ty with
  | leaf l => rw [coerce_leaf, coerceStep]
  | optional inner => rw [coerce_optional, coerceStep]
  | withDefault inner fallback => rw [coerce_withDefault, coerceStep]
  | constrained inner con => rw [coerce_constrained, coerceStep]
  | sum left right =>
      rw [coerceStep]
      cases h : (sum left right).nullableInner? with
      | some inner => exact (coerce_nullable h c v).symm
      | none => exact (coerce_sum h c v).symm
  | struct id =>
      simp only [coerceStep, fieldsStep_coerce]
      exact (coerce_struct c id v).symm
  | recursive id =>
      simp only [coerceStep, fieldsStep_coerce]
      exact (coerce_recursive c id v).symm
  | array element =>
      cases v with
      | arr items => rw [coerce_array, coerceStep]
      | _ => rw [coerce, coerceStep]; all_goals simp
  | map key value =>
      cases v with
      | obj members => rw [coerce_map, coerceStep]
      | _ => rw [coerce, coerceStep]; all_goals simp
  | record fields => rw [coerceStep, coerce_record, fieldsStep_coerce]

/-! ### The calls below a call -/

/-- A call that stays in the type: at what a wrapper wraps or at an alternative, with the same value, at
the items of a list, and at the keys and values of a map. -/
inductive Descends : Descriptor × Json → Descriptor × Json → Prop
  | nullable {ty inner : Descriptor} {v : Json} (h : ty.nullableInner? = some inner) :
    Descends (ty, v) (inner, v)
  | withDefault {inner : Descriptor} {fallback v : Json} :
    Descends (.withDefault inner fallback, v) (inner, v)
  | constrained {inner : Descriptor} {con : Constraint} {v : Json} :
    Descends (.constrained inner con, v) (inner, v)
  | left {left right : Descriptor} {v : Json} (h : (sum left right).nullableInner? = none) :
    Descends (.sum left right, v) (left, v)
  | right {left right : Descriptor} {v : Json} (h : (sum left right).nullableInner? = none) :
    Descends (.sum left right, v) (right, v)
  | item {element : Descriptor} {items : List Json} {x : Json} (hx : x ∈ items) :
    Descends (.array element, .arr items) (element, x)
  | key {key value : Descriptor} {members : List (String × Json)} {m : String × Json}
    (hm : m ∈ members) : Descends (.map key value, .obj members) (key, .str m.1)
  | value {key value : Descriptor} {members : List (String × Json)} {m : String × Json}
    (hm : m ∈ members) : Descends (.map key value, .obj members) (value, m.2)

/-- A call at the value of a field of a struct or record. -/
inductive Unfolds (c : Catalog) : Descriptor × Json → Descriptor × Json → Prop
  | field {ty : Descriptor} {fields : List Field} {members : List (String × Json)} {f : Field} {x : Json}
    (h : ty.fieldsOf? c = some fields) (hf : f ∈ fields) (found : members.lookup f.name = some x) :
    Unfolds c (ty, .obj members) (f.type, x)

/-- A call that coercion makes. -/
def Calls (c : Catalog) (above below : Descriptor × Json) : Prop :=
  Descends above below ∨ Unfolds c above below

theorem Descends.type_lt {above below : Descriptor × Json} (h : Descends above below) :
    below.1.height < above.1.height := by
  cases h with
  | nullable h => exact height_lt_of_nullableInner? h
  | _ => simp only [height]; omega

theorem Descends.value_le {above below : Descriptor × Json} (h : Descends above below) :
    below.2.height ≤ above.2.height := by
  cases h with
  | item hx => exact Nat.le_of_lt (Json.height_item_lt hx)
  | key hm => exact Nat.zero_le _
  | value hm => exact Nat.le_of_lt (Json.height_member_lt hm)
  | _ => exact Nat.le_refl _

theorem Unfolds.value_lt {c : Catalog} {above below : Descriptor × Json} (h : Unfolds c above below) :
    below.2.height < above.2.height := by
  cases h with
  | field h hf found => exact Json.height_member_lt (Entries.mem_of_lookup found)

theorem fieldsHeight_le_of_fieldsOf? {c : Catalog} {ty : Descriptor} {fields : List Field}
    (h : ty.fieldsOf? c = some fields) : fieldsHeight fields ≤ max c.height ty.height := by
  cases ty with
  | record own =>
      cases h
      exact Nat.le_trans (Nat.le_succ _) (Nat.le_max_right _ _)
  | struct id =>
      obtain ⟨d, found, rfl⟩ := Option.map_eq_some_iff.1 h
      have mem : d ∈ c.structs := List.mem_of_getElem? found
      exact Nat.le_trans (Catalog.fieldsHeight_le mem) (Nat.le_max_left _ _)
  | recursive id =>
      obtain ⟨d, found, rfl⟩ := Option.map_eq_some_iff.1 h
      have mem : d ∈ c.structs := Catalog.mem_of_resolve? found
      exact Nat.le_trans (Catalog.fieldsHeight_le mem) (Nat.le_max_left _ _)
  | _ => cases h

theorem Unfolds.type_le {c : Catalog} {above below : Descriptor × Json} (h : Unfolds c above below) :
    below.1.height ≤ max c.height above.1.height := by
  cases h with
  | field h hf _ => exact Nat.le_trans (height_type_le hf) (fieldsHeight_le_of_fieldsOf? h)

/-! ### What one call depends on -/

section congr
variable {c : Catalog} {read other : Descriptor → Json → Checked Json}

theorem fieldsStep_congr {ty : Descriptor} {fields : List Field} (h : ty.fieldsOf? c = some fields)
    {v : Json} (same : ∀ t w, Calls c (ty, v) (t, w) → read t w = other t w) :
    fieldsStep read fields v = fieldsStep other fields v := by
  cases v with
  | obj members =>
      have parts : ∀ f ∈ fields, fieldResult f ((members.lookup f.name).map (read f.type)) =
          fieldResult f ((members.lookup f.name).map (other f.type)) := by
        intro f hf
        cases found : members.lookup f.name with
        | none => rfl
        | some x =>
            have called := same f.type x (.inr (.field h hf found))
            rw [Option.map_some, Option.map_some, called]
      rw [fieldsStep, fieldsStep, List.map_congr_left parts]
  | _ => rfl

/-- One call of coercion is determined by what the calls below it give. -/
theorem coerceStep_congr {ty : Descriptor} {v : Json}
    (same : ∀ t w, Calls c (ty, v) (t, w) → read t w = other t w) :
    coerceStep c read ty v = coerceStep c other ty v := by
  cases ty with
  | leaf l => rfl
  | optional inner =>
      have inside := same inner v (.inl (.nullable rfl))
      rw [coerceStep, coerceStep, inside]
  | withDefault inner fallback =>
      have inside := same inner v (.inl .withDefault)
      rw [coerceStep, coerceStep, inside]
  | constrained inner con =>
      have inside := same inner v (.inl .constrained)
      rw [coerceStep, coerceStep, inside]
  | sum left right =>
      cases h : (sum left right).nullableInner? with
      | some inner =>
          have inside := same inner v (.inl (.nullable h))
          simp only [coerceStep, h, inside]
      | none =>
          have first := same left v (.inl (.left h))
          have second := same right v (.inl (.right h))
          simp only [coerceStep, h, first, second]
  | struct id =>
      rw [coerceStep, coerceStep]
      cases found : c.find? id with
      | none => rfl
      | some d =>
          have named : (Descriptor.struct id).structOf? c = some d := found
          exact fieldsStep_congr (fieldsOf?_of_structOf? named) same
  | recursive id =>
      rw [coerceStep, coerceStep]
      cases found : c.resolve? id with
      | none => rfl
      | some d =>
          have named : (Descriptor.recursive id).structOf? c = some d := found
          exact fieldsStep_congr (fieldsOf?_of_structOf? named) same
  | array element =>
      cases v with
      | arr items =>
          have parts : (items.mapIdx fun i x => (read element x).nest (indexPath i)) =
              items.mapIdx fun i x => (other element x).nest (indexPath i) := by
            refine List.ext_getElem? fun i => ?_
            rw [List.getElem?_mapIdx, List.getElem?_mapIdx]
            cases found : items[i]? with
            | none => rfl
            | some x =>
                have called := same element x (.inl (.item (List.mem_of_getElem? found)))
                rw [Option.map_some, Option.map_some, called]
          simp only [coerceStep, parts]
      | _ => rfl
  | map key value =>
      cases v with
      | obj members =>
          have parts : ∀ m ∈ members, entryResult m.1 (read key (.str m.1)) (read value m.2) =
              entryResult m.1 (other key (.str m.1)) (other value m.2) := by
            intro m hm
            rw [same key (.str m.1) (.inl (.key hm)), same value m.2 (.inl (.value hm))]
          simp only [coerceStep, List.map_congr_left parts]
      | _ => rfl
  | record fields => exact fieldsStep_congr rfl same

end congr

/-! ### The bound -/

/-- A bound on the calls that stand above each other: those of the type itself, and those of one field type
of the catalog for each value that stands inside another. -/
def callDepth (c : Catalog) (ty : Descriptor) (v : Json) : Nat :=
  v.height * (c.height + 1) + ty.height

theorem Calls.callDepth_lt {c : Catalog} {ty t : Descriptor} {v w : Json}
    (h : Calls c (ty, v) (t, w)) : callDepth c t w < callDepth c ty v := by
  unfold callDepth
  rcases h with descends | unfolds
  · have smaller : t.height < ty.height := descends.type_lt
    have le : w.height * (c.height + 1) ≤ v.height * (c.height + 1) :=
      Nat.mul_le_mul_right _ descends.value_le
    omega
  · have le : (w.height + 1) * (c.height + 1) ≤ v.height * (c.height + 1) :=
      Nat.mul_le_mul_right _ unfolds.value_lt
    have inside : t.height ≤ max c.height ty.height := unfolds.type_le
    rw [Nat.succ_mul] at le
    omega

/-- Coercion that is given up below its depth gives what coercion gives. -/
theorem iterate_coerceStep (c : Catalog) (read : Descriptor → Json → Checked Json) {n : Nat}
    {ty : Descriptor} {v : Json} (h : callDepth c ty v < n) :
    (coerceStep c)^[n] read ty v = coerce c ty v := by
  induction n generalizing ty v with
  | zero => exact absurd h (Nat.not_lt_zero _)
  | succ n ih =>
      rw [Function.iterate_succ_apply', ← coerceStep_coerce]
      refine coerceStep_congr fun t w called => ?_
      have lt := called.callDepth_lt
      exact ih (by omega)

theorem length_le_callDepth {c : Catalog} {path : List (Descriptor × Json)} {ty : Descriptor} {v : Json}
    (calls : List.IsChain (Calls c) ((ty, v) :: path)) : path.length ≤ callDepth c ty v := by
  induction path generalizing ty v with
  | nil => exact Nat.zero_le _
  | cons below path ih =>
      obtain ⟨called, rest⟩ := List.isChain_cons_cons.1 calls
      have lt := called.callDepth_lt
      have le := ih rest
      rw [List.length_cons]
      omega

theorem descends_heights {above below : Descriptor × Json}
    (h : Relation.ReflTransGen Descends above below) :
    below.1.height ≤ above.1.height ∧ below.2.height ≤ above.2.height := by
  induction h with
  | refl => exact ⟨Nat.le_refl _, Nat.le_refl _⟩
  | tail _ step ih =>
      exact ⟨Nat.le_trans (Nat.le_of_lt step.type_lt) ih.1, Nat.le_trans step.value_le ih.2⟩

/-- Coercion ends on all types of all catalogs.  It is one call of itself, which depends on the calls below
it alone; calls that stay in the type go to smaller types, from one unfolding of fields to the next the
value gets smaller, and so all paths of calls are bounded: coercion that is given up below the bound, with
whatever in place of an answer, gives what coercion gives. -/
theorem coerce_terminates (c : Catalog) (ty : Descriptor) (v : Json) :
    coerceStep c (coerce c) ty v = coerce c ty v ∧
    (∀ read other, (∀ t w, Calls c (ty, v) (t, w) → read t w = other t w) →
      coerceStep c read ty v = coerceStep c other ty v) ∧
    (∀ t w, Relation.TransGen Descends (ty, v) (t, w) → t.height < ty.height ∧ w.height ≤ v.height) ∧
    (∀ below t w, Unfolds c (ty, v) below → Relation.ReflTransGen Descends below (t, w) →
      w.height < v.height) ∧
    (∀ path, List.IsChain (Calls c) ((ty, v) :: path) → path.length ≤ callDepth c ty v) ∧
    ∀ n read, callDepth c ty v < n → (coerceStep c)^[n] read ty v = coerce c ty v := by
  refine ⟨?_, ?_, ?_, ?_, ?_, ?_⟩
  · rw [coerceStep_coerce]
  · exact fun read other same => coerceStep_congr same
  · intro t w descends
    obtain ⟨middle, first, rest⟩ := Relation.TransGen.head'_iff.1 descends
    obtain ⟨types, values⟩ := descends_heights rest
    exact ⟨Nat.lt_of_le_of_lt types first.type_lt, Nat.le_trans values first.value_le⟩
  · intro below t w unfolds descends
    exact Nat.lt_of_le_of_lt (descends_heights descends).2 unfolds.value_lt
  · exact fun path calls => length_le_callDepth calls
  · exact fun n read deeper => iterate_coerceStep c read deeper

/-- A node, which leads back to itself through a list, as the key of a map and as an alternative. -/
def node : StructDef where
  origin := "tree::Node"
  schemaName := none
  description := none
  fields := [⟨"labels", .withDefault (.map (.recursive (some 0)) (.leaf .string)) (.obj []), none⟩,
    ⟨"next", .optional (.array (.sum (.leaf .integer) (.struct 0))), none⟩]

/-- The catalog of nodes. -/
def tree : Catalog := ⟨[node]⟩

/-- A node with another one and a label, which cannot be the text of a node. -/
def labelled : Json :=
  .obj [("labels", .obj [("root", .str "r")]), ("next", .arr [.obj [("next", .arr [])]])]

theorem coerce_terminates_labelled :
    callDepth tree (.struct 0) labelled = 16 ∧
    ∀ read, (coerceStep tree)^[17] read (.struct 0) labelled = coerce tree (.struct 0) labelled := by
  have depth : callDepth tree (.struct 0) labelled = 16 := by decide
  obtain ⟨-, -, -, -, -, ends⟩ := coerce_terminates tree (.struct 0) labelled
  refine ⟨depth, fun read => ends 17 read ?_⟩
  rw [depth]
  decide

/-- So coercion can be computed step by step. -/
example : coerce tree (.struct 0) labelled =
    .error [⟨"labels.root", "invalid key: must be an object"⟩] := by
  rw [← iterate_coerceStep tree (fun _ v => .ok v) (n := 17) (by decide)]
  rfl

end Descriptor
end ApiContract
