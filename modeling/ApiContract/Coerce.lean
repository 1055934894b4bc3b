import ApiContract.Descriptor
import ApiContract.SetupError
import ApiContract.Violation

/-! # Coercion: reading a value at a type

`Descriptor.coerce` turns an untyped value into a value of a type, or reports every violation of the
value, not the first alone.  Keys that a struct does not declare are dropped.

The recursion ends although types may be cyclic: the parts of a list or object are smaller than the
value, and in between the type gets smaller.

The equations `coerce_leaf`, …, `coerce_record` say what coercion does at each type in terms of
coercion at the parts; nothing else need be known of the definition. -/

namespace ApiContract

namespace Descriptor

/-- What a field contributes to an object: a member or nothing.  `part` is the member with the
field's name, already read. -/
def fieldResult (f : Field) (part : Option (Checked Json)) : Checked (Option (String × Json)) :=
  match part with
  | some result => (result.nest f.name).map fun v => some (f.name, v)
  | none =>
    match f.type.defaultValue? with
    | some fallback => .ok (some (f.name, fallback))
    | none => if f.isRequired then .error [⟨f.name, "is missing"⟩] else .ok none

/-- What a member of a map contributes: its key and value, both read. -/
def entryResult (key : String) (keyResult valueResult : Checked Json) : Checked (String × Json) :=
  match keyResult with
  | .error vs => .error (vs.map fun v => ⟨key, "invalid key: " ++ v.message⟩)
  | .ok (.str s) => (valueResult.nest key).map fun v => (s, v)
  | .ok k => (valueResult.nest key).map fun v => (k.compact, v)

/-- The path of an item. -/
def indexPath (i : Nat) : String := "[" ++ toString i ++ "]"

/-- Whether a value stands for no value at a type that admits null. -/
def meansNull (inner : Descriptor) : Json → Bool
  | .null => true
  | .str s => s.isEmpty && !inner.isTextual
  | _ => false

/-- Runs a constraint on a value that has been read; null is exempt where it means absence. -/
def checkConstraint (inner : Descriptor) (c : Constraint) (v : Json) : Checked Json :=
  if v.isNull && !inner.isRequired then .ok v
  else match c.check v with
    | .ok () => .ok v
    | .error message => Checked.fail message

mutual

/-- Reads a value at a type. -/
def coerce (c : Catalog) (ty : Descriptor) (v : Json) : Checked Json :=
  match ty with
  | .leaf l => (l.read v).mapError fun message => [.whole message]
  | .optional inner => if inner.meansNull v then .ok .null else coerce c inner v
  | .withDefault inner fallback => if v.isNull then .ok fallback else coerce c inner v
  | .constrained inner con => coerce c inner v >>= inner.checkConstraint con
  | .sum left right =>
    if right.isAbsence then if left.meansNull v then .ok .null else coerce c left v
    else if left.isAbsence then if right.meansNull v then .ok .null else coerce c right v
    else match coerce c left v with
      | .ok w => .ok w
      | .error _ => match coerce c right v with
        | .ok w => .ok w
        | .error _ => Checked.fail "does not match any alternative"
  | .struct id => match c.find? id with
    | some d => coerceFields c d.fields v
    | none => Checked.fail SetupError.danglingReference.message
  | .recursive id => match c.resolve? id with
    | some d => coerceFields c d.fields v
    | none => Checked.fail SetupError.danglingReference.message
  | .array element => match v with
    | .arr items =>
      (Checked.all (items.attach.mapIdx fun i ⟨x, _⟩ => (coerce c element x).nest (indexPath i))).map
        .arr
    | _ => Checked.fail "must be an array"
  | .map key value => match v with
    | .obj members =>
      (Checked.all (members.attach.map fun ⟨(k, x), _⟩ =>
        entryResult k (coerce c key (.str k)) (coerce c value x))).map .object
    | _ => Checked.fail "must be an object"
  | .record fields => coerceFields c fields v
termination_by (sizeOf v, sizeOf ty)
decreasing_by
  all_goals first
    | (apply Prod.Lex.left
       first
         | exact Json.sizeOf_item_lt ‹_›
         | exact Json.sizeOf_key_lt ‹_›
         | exact Json.sizeOf_member_lt ‹_›)
    | (apply Prod.Lex.right; simp +arith)

/-- Reads the fields of a struct or record. -/
def coerceFields (c : Catalog) (fields : List Field) (v : Json) : Checked Json :=
  match v with
  | .obj members =>
    (Checked.all (fields.map fun f =>
      fieldResult f (match _found : members.lookup f.name with
        | some x => some (coerce c f.type x)
        | none => none))).map fun parts => .object (parts.filterMap id)
  | _ => Checked.fail "must be an object"
termination_by (sizeOf v, 0)
decreasing_by exact Prod.Lex.left _ _ (Json.sizeOf_lookup_lt _found)

end

/-! ### The equations -/

theorem coerce_leaf (c : Catalog) (l : Leaf) (v : Json) :
    coerce c (.leaf l) v = (l.read v).mapError fun message => [.whole message] := by
  rw [coerce]

theorem coerce_optional (c : Catalog) (inner : Descriptor) (v : Json) :
    coerce c (.optional inner) v = if inner.meansNull v then .ok .null else coerce c inner v := by
  rw [coerce]

theorem coerce_nullable {ty inner : Descriptor} (h : ty.nullableInner? = some inner) (c : Catalog)
    (v : Json) : coerce c ty v = if inner.meansNull v then .ok .null else coerce c inner v := by
  rcases nullableInner?_eq_some h with rfl | ⟨right, rfl, hr⟩ | ⟨left, rfl, hr, hl⟩
  · exact coerce_optional c inner v
  · rw [coerce, if_pos hr]
  · rw [coerce, hr, if_neg Bool.false_ne_true, if_pos hl]

theorem coerce_sum {left right : Descriptor} (h : (sum left right).nullableInner? = none)
    (c : Catalog) (v : Json) :
    coerce c (.sum left right) v = match coerce c left v with
      | .ok w => .ok w
      | .error _ => match coerce c right v with
        | .ok w => .ok w
        | .error _ => Checked.fail "does not match any alternative" := by
  obtain ⟨hl, hr⟩ := nullableInner?_sum_eq_none h
  rw [coerce, hr, if_neg Bool.false_ne_true, hl, if_neg Bool.false_ne_true]

theorem coerce_withDefault (c : Catalog) (inner : Descriptor) (fallback v : Json) :
    coerce c (.withDefault inner fallback) v =
      if v.isNull then .ok fallback else coerce c inner v := by
  rw [coerce]

theorem coerce_constrained (c : Catalog) (inner : Descriptor) (con : Constraint) (v : Json) :
    coerce c (.constrained inner con) v = coerce c inner v >>= inner.checkConstraint con := by
  rw [coerce]

theorem coerce_struct (c : Catalog) (id : StructId) (v : Json) :
    coerce c (.struct id) v = match c.find? id with
      | some d => coerceFields c d.fields v
      | none => Checked.fail SetupError.danglingReference.message := by
  rw [coerce]

theorem coerce_recursive (c : Catalog) (id : Option StructId) (v : Json) :
    coerce c (.recursive id) v = match c.resolve? id with
      | some d => coerceFields c d.fields v
      | none => Checked.fail SetupError.danglingReference.message := by
  rw [coerce]

/-- A reference back to a struct is read as the struct. -/
theorem coerce_recursive_some (c : Catalog) (id : StructId) (v : Json) :
    coerce c (.recursive (some id)) v = coerce c (.struct id) v := by
  rw [coerce_recursive, coerce_struct]
  rfl

theorem coerce_record (c : Catalog) (fields : List Field) (v : Json) :
    coerce c (.record fields) v = coerceFields c fields v := by
  rw [coerce]

theorem coerce_array (c : Catalog) (element : Descriptor) (items : List Json) :
    coerce c (.array element) (.arr items) =
      (Checked.all (items.mapIdx fun i x => (coerce c element x).nest (indexPath i))).map .arr := by
  rw [coerce]
  congr 2
  refine List.ext_getElem? fun i => ?_
  simp only [List.getElem?_mapIdx, List.getElem?_attach, Option.map_pmap, Option.pmap_eq_map]

theorem coerce_map (c : Catalog) (key value : Descriptor) (members : List (String × Json)) :
    coerce c (.map key value) (.obj members) =
      (Checked.all (members.map fun m =>
        entryResult m.1 (coerce c key (.str m.1)) (coerce c value m.2))).map .object := by
  rw [coerce, ← List.attach_map_val (l := members) (f := fun m =>
    entryResult m.1 (coerce c key (.str m.1)) (coerce c value m.2))]

theorem coerceFields_obj (c : Catalog) (fields : List Field) (members : List (String × Json)) :
    coerceFields c fields (.obj members) =
      (Checked.all (fields.map fun f =>
        fieldResult f ((members.lookup f.name).map (coerce c f.type)))).map
        fun parts => .object (parts.filterMap id) := by
  rw [coerceFields]
  congr 2
  refine List.map_congr_left fun f _ => ?_
  split <;> next h => rw [h]; rfl

end Descriptor
end ApiContract
