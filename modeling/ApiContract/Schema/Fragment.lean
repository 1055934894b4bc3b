import ApiContract.Descriptor
import ApiContract.Registry

/-! # Schema fragments

A fragment is the schema of a type as it is written where the type is used.  A struct is written as a
reference to its name, so a fragment never looks into a struct and is finite for cyclic types too.
`StructDef.schema` is what such a reference leads to.

`Descriptor.mentions` lists what a fragment relies on: leaves that must be registered and structs that
must be published, in the order in which they are written. -/

namespace ApiContract

/-- A reference to the schema of a given name. -/
def schemaRef (name : String) : Json := .object [("$ref", .str ("#/components/schemas/" ++ name))]

/-- Something that a fragment relies on. -/
inductive Mention
  | leaf (l : Leaf)
  | struct (id : Option StructId)

/-- The schema of an object with given properties, of which some are required. -/
def objectSchema (properties : List (String × Json)) (required : List String)
    (description : Option String) : Json :=
  .object <|
    [("type", .str "object"), ("properties", .object properties)] ++
    (if required.isEmpty then [] else [("required", .arr (required.map .str))]) ++
    (description.map fun text => ("description", Json.str text)).toList

namespace Descriptor

/-- Marks a fragment as admitting null. -/
def nullable (fragment : Json) : Json := fragment.set "nullable" (.bool true)

/-- A property with the description of its field, if it has one. -/
def describe (description : Option String) (property : Json) : Json :=
  match description with
  | some text => property.set "description" (.str text)
  | none => property

/-- The names of the fields that must be present. -/
def requiredNames (fields : List Field) : List String :=
  (fields.filter Member.isRequired).map Member.name

/-- The reference to a struct, which is empty for one that is gone. -/
def refTo (d : Option StructDef) : Json := (d.map fun d => schemaRef d.canonicalName).getD (.obj [])

mutual

/-- The fragment of a type.  Where a leaf is not registered or a struct is gone an empty schema
stands; such a type is not compiled. -/
def fragment (r : Registry) (c : Catalog) : Descriptor → Json
  | .leaf l => (r.lookup l).getD (.obj [])
  | .optional inner => nullable (fragment r c inner)
  | .withDefault inner _ => fragment r c inner
  | .constrained inner _ => fragment r c inner
  | .sum left right =>
    if right.isAbsence then nullable (fragment r c left)
    else if left.isAbsence then nullable (fragment r c right)
    else .object [("anyOf", .arr [fragment r c left, fragment r c right])]
  | .struct id => refTo (c.find? id)
  | .recursive id => refTo (c.resolve? id)
  | .array element => .object [("type", .str "array"), ("items", fragment r c element)]
  | .map _ value => .object [("type", .str "object"), ("additionalProperties", fragment r c value)]
  | .record fields => objectSchema (properties r c fields) (requiredNames fields) none
termination_by structural ty => ty

/-- The properties of the fields of a struct or record. -/
def properties (r : Registry) (c : Catalog) : List Field → List (String × Json)
  | [] => []
  | f :: fields => property r c f :: properties r c fields
termination_by structural fields => fields

/-- The property of a field. -/
def property (r : Registry) (c : Catalog) : Field → String × Json
  | ⟨name, type, description⟩ => (name, describe description (fragment r c type))
termination_by structural field => field

end

mutual

/-- What the fragment of a type relies on. -/
def mentions : Descriptor → List Mention
  | .leaf l => [.leaf l]
  | .optional inner => mentions inner
  | .withDefault inner _ => mentions inner
  | .constrained inner _ => mentions inner
  | .sum left right =>
    if right.isAbsence then mentions left
    else if left.isAbsence then mentions right
    else mentions left ++ mentions right
  | .struct id => [.struct (some id)]
  | .recursive id => [.struct id]
  | .array element => mentions element
  | .map _ value => mentions value
  | .record fields => fieldMentions fields
termination_by structural ty => ty

/-- What the properties of some fields rely on. -/
def fieldMentions : List Field → List Mention
  | [] => []
  | f :: fields => memberMentions f ++ fieldMentions fields
termination_by structural fields => fields

/-- What the property of a field relies on. -/
def memberMentions : Field → List Mention
  | ⟨_, type, _⟩ => mentions type
termination_by structural field => field

end

theorem fragment_nullable {ty inner : Descriptor} (h : ty.nullableInner? = some inner) (r : Registry)
    (c : Catalog) : fragment r c ty = nullable (fragment r c inner) := by
  rcases nullableInner?_eq_some h with rfl | ⟨right, rfl, hr⟩ | ⟨left, rfl, hr, hl⟩
  · rfl
  · rw [fragment, if_pos hr]
  · rw [fragment, hr, if_neg Bool.false_ne_true, if_pos hl]

theorem fragment_sum {left right : Descriptor} (h : (sum left right).nullableInner? = none)
    (r : Registry) (c : Catalog) : fragment r c (.sum left right) =
      .object [("anyOf", .arr [fragment r c left, fragment r c right])] := by
  obtain ⟨hl, hr⟩ := nullableInner?_sum_eq_none h
  rw [fragment, hr, if_neg Bool.false_ne_true, hl, if_neg Bool.false_ne_true]

theorem mentions_nullable {ty inner : Descriptor} (h : ty.nullableInner? = some inner) :
    mentions ty = mentions inner := by
  rcases nullableInner?_eq_some h with rfl | ⟨right, rfl, hr⟩ | ⟨left, rfl, hr, hl⟩
  · rfl
  · rw [mentions, if_pos hr]
  · rw [mentions, hr, if_neg Bool.false_ne_true, if_pos hl]

theorem mentions_sum {left right : Descriptor} (h : (sum left right).nullableInner? = none) :
    mentions (.sum left right) = mentions left ++ mentions right := by
  obtain ⟨hl, hr⟩ := nullableInner?_sum_eq_none h
  rw [mentions, hr, if_neg Bool.false_ne_true, hl, if_neg Bool.false_ne_true]

theorem properties_eq_map (r : Registry) (c : Catalog) (fields : List Field) :
    properties r c fields = fields.map (property r c) := by
  induction fields with
  | nil => rfl
  | cons f rest ih => rw [properties, ih, List.map_cons]

theorem property_eq (r : Registry) (c : Catalog) (f : Field) :
    property r c f = (f.name, describe f.description (fragment r c f.type)) := by
  cases f; rfl

theorem fieldMentions_eq_flatMap (fields : List Field) :
    fieldMentions fields = fields.flatMap fun f => mentions f.type := by
  induction fields with
  | nil => rfl
  | cons f rest ih => rw [fieldMentions, ih, List.flatMap_cons]; cases f; rfl

end Descriptor

namespace StructDef

/-- The schema that a struct is published with. -/
def schema (r : Registry) (c : Catalog) (d : StructDef) : Json :=
  objectSchema (Descriptor.properties r c d.fields) (Descriptor.requiredNames d.fields) d.description

/-- What the schema of a struct relies on. -/
def mentions (d : StructDef) : List Mention := Descriptor.fieldMentions d.fields

end StructDef
end ApiContract
