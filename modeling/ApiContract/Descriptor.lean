import ApiContract.Constraint
import ApiContract.Leaf

/-! # Type descriptors

A descriptor is the shape of a value.  Structs may refer to themselves and to each other: their
definitions stand in a `Catalog`, and descriptors name them by their place in it, so a finite catalog
describes every cyclic graph of types.

* `Descriptor.nullableInner?` is what is left of a type that admits null.
* `Descriptor.isRequired` says whether a field of the type may be left out.
* `Descriptor.collectionElement?` finds the items of a list type under its wrappers. -/

namespace ApiContract

/-- A named part of a struct or record. -/
structure Member (α : Type) where
  name : String
  type : α
  description : Option String

/-- The place of a struct's definition in a catalog. -/
abbrev StructId := Nat

/-- The shape of a value. -/
inductive Descriptor
  /-- A type with no parts. -/
  | leaf (l : Leaf)
  /-- Admits null and absence. -/
  | optional (inner : Descriptor)
  /-- Has a value for null and absence. -/
  | withDefault (inner : Descriptor) (value : Json)
  /-- Holds the values of a type that satisfy a predicate. -/
  | constrained (inner : Descriptor) (c : Constraint)
  /-- One of two types, of which the left is tried first. -/
  | sum (left right : Descriptor)
  /-- A struct of the catalog. -/
  | struct (id : StructId)
  /-- A reference back to a struct of the catalog, or to one that is gone. -/
  | recursive (id : Option StructId)
  /-- A list. -/
  | array (element : Descriptor)
  /-- An object whose keys and values have one type each. -/
  | map (key value : Descriptor)
  /-- An object with named parts. -/
  | record (fields : List (Member Descriptor))

/-- A named part with its type. -/
abbrev Field := Member Descriptor

/-- The definition of a struct.  The origin identifies the struct; the schema name, if there is one,
is the name that it is published under. -/
structure StructDef where
  origin : String
  schemaName : Option String
  description : Option String
  fields : List Field

/-- The definitions that descriptors refer to. -/
structure Catalog where
  structs : List StructDef

namespace Catalog

/-- The definition of a struct. -/
def find? (c : Catalog) (id : StructId) : Option StructDef := c.structs[id]?

/-- The definition that a back-reference leads to. -/
def resolve? (c : Catalog) (id : Option StructId) : Option StructDef := id.bind c.find?

theorem mem_of_resolve? {c : Catalog} {id : Option StructId} {d : StructDef}
    (h : c.resolve? id = some d) : d ∈ c.structs := by
  cases id with
  | none => cases h
  | some i => exact List.mem_of_getElem? h

end Catalog

namespace StructDef

/-- What stands before a double colon in a reversed path. -/
def lastSegmentReversed : List Char → List Char
  | ':' :: ':' :: _ => []
  | c :: cs => c :: lastSegmentReversed cs
  | [] => []

/-- The last segment of an origin without its type arguments. -/
def shortName (origin : String) : String :=
  let base := origin.toList.takeWhile (· != '<')
  String.ofList (Text.trim (lastSegmentReversed base.reverse).reverse)

/-- The name that a struct is published under. -/
def canonicalName (d : StructDef) : String := d.schemaName.getD (shortName d.origin)

end StructDef

namespace Descriptor

/-- Whether this is the leaf of absence. -/
def isAbsence : Descriptor → Bool
  | .leaf l => l.isAbsence
  | _ => false

/-- The other type of an optional type or of a sum with the leaf of absence. -/
def nullableInner? : Descriptor → Option Descriptor
  | .optional inner => some inner
  | .sum left right =>
    if right.isAbsence then some left else if left.isAbsence then some right else none
  | _ => none

/-- Whether a field of this type must be present. -/
def isRequired : Descriptor → Bool
  | .optional _ | .withDefault _ _ => false
  | .constrained inner _ => inner.isRequired
  | ty => ty.nullableInner?.isNone && !ty.isAbsence

/-- The value of an absent field, under constraints. -/
def defaultValue? : Descriptor → Option Json
  | .withDefault _ value => some value
  | .constrained inner _ => inner.defaultValue?
  | _ => none

/-- The type of the items, if this is a list type under wrappers. -/
def collectionElement? : Descriptor → Option Descriptor
  | .array element => some element
  | .optional inner | .withDefault inner _ | .constrained inner _ => inner.collectionElement?
  | .sum left right =>
    if right.isAbsence then left.collectionElement?
    else if left.isAbsence then right.collectionElement?
    else none
  | _ => none

/-- Whether the empty text is a value of this type. -/
def isTextual : Descriptor → Bool
  | .leaf l => l.isTextual
  | .optional inner | .withDefault inner _ | .constrained inner _ => inner.isTextual
  | .sum left right => left.isTextual || right.isTextual
  | _ => false

/-- Whether a value of this type can be an object with known structure. -/
def wantsObject : Descriptor → Bool
  | .struct _ | .recursive _ | .record _ | .map _ _ => true
  | .optional inner | .withDefault inner _ | .constrained inner _ => inner.wantsObject
  | .sum left right => left.wantsObject || right.wantsObject
  | _ => false

/-- The structure of a type in one line. -/
def shape (c : Catalog) : Descriptor → String
  | .leaf l => l.name
  | .optional inner => "optional(" ++ shape c inner ++ ")"
  | .withDefault inner _ => "default(" ++ shape c inner ++ ")"
  | .constrained inner _ => "constrained(" ++ shape c inner ++ ")"
  | .sum left right => "sum(" ++ shape c left ++ "," ++ shape c right ++ ")"
  | .struct id => "struct(" ++ ((c.find? id).map StructDef.canonicalName).getD "" ++ ")"
  | .recursive _ => "recursive"
  | .array element => "array(" ++ shape c element ++ ")"
  | .map key value => "map(" ++ shape c key ++ "," ++ shape c value ++ ")"
  | .record fields => "record(" ++ String.intercalate "," (fields.map Member.name) ++ ")"

theorem nullableInner?_eq_some {ty inner : Descriptor} (h : ty.nullableInner? = some inner) :
    ty = .optional inner ∨ (∃ right, ty = .sum inner right ∧ right.isAbsence = true) ∨
      ∃ left, ty = .sum left inner ∧ inner.isAbsence = false ∧ left.isAbsence = true := by
  cases ty with
  | optional t => exact .inl (congrArg _ (Option.some.inj h))
  | sum left right =>
    rw [nullableInner?] at h
    split at h
    · next hr => exact .inr (.inl ⟨right, by rw [Option.some.inj h], hr⟩)
    · next hr =>
      split at h
      · next hl =>
        obtain rfl := Option.some.inj h
        exact .inr (.inr ⟨left, rfl, Bool.eq_false_iff.2 hr, hl⟩)
      · cases h
  | _ => cases h

/-- What is left of a type that admits null is smaller. -/
theorem sizeOf_lt_of_nullableInner? {ty inner : Descriptor} (h : ty.nullableInner? = some inner) :
    sizeOf inner < sizeOf ty := by
  rcases nullableInner?_eq_some h with rfl | ⟨right, rfl, -⟩ | ⟨left, rfl, -, -⟩
  all_goals simp +arith

theorem nullableInner?_sum_eq_none {left right : Descriptor}
    (h : (sum left right).nullableInner? = none) :
    left.isAbsence = false ∧ right.isAbsence = false := by
  rw [nullableInner?] at h
  split at h
  · cases h
  · next hr =>
    split at h
    · cases h
    · next hl => exact ⟨Bool.eq_false_iff.2 hl, Bool.eq_false_iff.2 hr⟩

/-! ### Types that admit null, and other sums -/

/-- The empty text is no value of the leaf of absence. -/
theorem isTextual_of_isAbsence {ty : Descriptor} (absent : ty.isAbsence = true) :
    ty.isTextual = false := by
  cases ty with
  | leaf l =>
      have name : l.name = Leaf.null.name := eq_of_beq absent
      rw [isTextual, Leaf.isTextual, name]
      rfl
  | _ => cases absent

theorem wantsObject_of_isAbsence {ty : Descriptor} (absent : ty.isAbsence = true) :
    ty.wantsObject = false := by
  cases ty with
  | leaf => rfl
  | _ => cases absent

theorem isAbsence_of_isTextual {ty : Descriptor} (textual : ty.isTextual = true) :
    ty.isAbsence = false := by
  refine Bool.eq_false_iff.2 fun absent => ?_
  rw [isTextual_of_isAbsence absent] at textual
  cases textual

theorem isAbsence_of_isRequired {ty : Descriptor} (required : ty.isRequired = true) :
    ty.isAbsence = false := by
  cases ty with
  | leaf l => simpa [isRequired, nullableInner?, isAbsence] using required
  | _ => rfl

/-- A type with a value for its absence need not be present. -/
theorem isRequired_of_defaultValue? : ∀ (ty : Descriptor) {fallback : Json},
    ty.defaultValue? = some fallback → ty.isRequired = false
  | .withDefault _ _, _, _ => rfl
  | .constrained inner _, _, h => isRequired_of_defaultValue? inner h

section nullable
variable {ty inner : Descriptor} (h : ty.nullableInner? = some inner)
include h

theorem isAbsence_nullable : ty.isAbsence = false := by
  cases ty with
  | leaf => cases h
  | _ => rfl

theorem isRequired_nullable : ty.isRequired = false := by
  cases ty with
  | sum left right => simp [isRequired, h]
  | optional => rfl
  | _ => cases h

theorem defaultValue?_nullable : ty.defaultValue? = none := by
  cases ty with
  | sum | optional => rfl
  | _ => cases h

theorem collectionElement?_nullable : ty.collectionElement? = inner.collectionElement? := by
  rcases nullableInner?_eq_some h with rfl | ⟨right, rfl, hr⟩ | ⟨left, rfl, hr, hl⟩
  · rfl
  · rw [collectionElement?, if_pos hr]
  · rw [collectionElement?, hr, if_neg Bool.false_ne_true, if_pos hl]

theorem isTextual_nullable : ty.isTextual = inner.isTextual := by
  rcases nullableInner?_eq_some h with rfl | ⟨right, rfl, hr⟩ | ⟨left, rfl, -, hl⟩
  · rfl
  · rw [isTextual, isTextual_of_isAbsence hr, Bool.or_false]
  · rw [isTextual, isTextual_of_isAbsence hl, Bool.false_or]

theorem wantsObject_nullable : ty.wantsObject = inner.wantsObject := by
  rcases nullableInner?_eq_some h with rfl | ⟨right, rfl, hr⟩ | ⟨left, rfl, -, hl⟩
  · rfl
  · rw [wantsObject, wantsObject_of_isAbsence hr, Bool.or_false]
  · rw [wantsObject, wantsObject_of_isAbsence hl, Bool.false_or]

end nullable

section general
variable {left right : Descriptor} (h : (sum left right).nullableInner? = none)
include h

theorem isRequired_sum : (sum left right).isRequired = true := by
  simp [isRequired, h, isAbsence]

theorem collectionElement?_sum : (sum left right).collectionElement? = none := by
  obtain ⟨hl, hr⟩ := nullableInner?_sum_eq_none h
  rw [collectionElement?, hr, if_neg Bool.false_ne_true, hl, if_neg Bool.false_ne_true]

end general

theorem nullableInner?_sum_of_not_isAbsence {left right : Descriptor} (hl : left.isAbsence = false)
    (hr : right.isAbsence = false) : (sum left right).nullableInner? = none := by
  rw [nullableInner?, hr, if_neg Bool.false_ne_true, hl, if_neg Bool.false_ne_true]

end Descriptor

namespace Member

/-- Whether the field must be present. -/
def isRequired (f : Field) : Bool := f.type.isRequired

end Member
end ApiContract
