import ApiContract.Schema.Fragment
import Mathlib.Logic.Relation

/-! # What a type reaches

`Descriptor.parts` are the types that a fragment is written from, and for a struct those of its fields.
A type reaches its parts, their parts and so on; as structs refer to each other, that may go round in
circles.  Neither the key type of a map nor the leaf of absence in a sum is a part: no schema shows
them.

What a fragment mentions is reached as the struct of some type
(`exists_reaches_of_mem_mentions`), so publishing mentions never leaves what the type reaches. -/

namespace ApiContract

theorem Member.sizeOf_type_lt {f : Field} {fields : List Field} (h : f ∈ fields) :
    sizeOf f.type < sizeOf fields := by
  have lt := List.sizeOf_lt_of_mem h
  cases f with
  | mk name type description =>
      rw [Member.mk.sizeOf_spec] at lt
      show sizeOf type < _
      omega

namespace Descriptor

/-- The struct that a type names, if it is there. -/
def structOf? (c : Catalog) : Descriptor → Option StructDef
  | .struct id => c.find? id
  | .recursive id => c.resolve? id
  | _ => none

/-- The fields of a struct or record. -/
def fieldsOf? (c : Catalog) : Descriptor → Option (List Field)
  | .record fields => some fields
  | ty => (ty.structOf? c).map StructDef.fields

/-- The types that a type is published with. -/
def parts (c : Catalog) : Descriptor → List Descriptor
  | .leaf _ => []
  | .optional inner | .withDefault inner _ | .constrained inner _ => [inner]
  | .sum left right =>
    if right.isAbsence then [left] else if left.isAbsence then [right] else [left, right]
  | .array element => [element]
  | .map _ value => [value]
  | ty => ((ty.fieldsOf? c).getD []).map Member.type

/-- A type that is a part of another, or a part of a part, and so on. -/
abbrev Reaches (c : Catalog) : Descriptor → Descriptor → Prop :=
  Relation.ReflTransGen fun outer inner => inner ∈ outer.parts c

/-- A type that one of some types reaches. -/
def Reached (c : Catalog) (roots : List Descriptor) (s : Descriptor) : Prop :=
  ∃ root ∈ roots, root.Reaches c s

section parts
variable {c : Catalog} {ty inner : Descriptor}

theorem parts_nullable (h : ty.nullableInner? = some inner) : ty.parts c = [inner] := by
  rcases nullableInner?_eq_some h with rfl | ⟨right, rfl, hr⟩ | ⟨left, rfl, hr, hl⟩
  · rfl
  · rw [parts, if_pos hr]
  · rw [parts, hr, if_neg Bool.false_ne_true, if_pos hl]

theorem parts_sum {left right : Descriptor} (h : (sum left right).nullableInner? = none) :
    (sum left right).parts c = [left, right] := by
  obtain ⟨hl, hr⟩ := nullableInner?_sum_eq_none h
  rw [parts, hr, if_neg Bool.false_ne_true, hl, if_neg Bool.false_ne_true]

theorem parts_of_fieldsOf? {fields : List Field} (h : ty.fieldsOf? c = some fields) :
    ty.parts c = fields.map Member.type := by
  cases ty with
  | struct | recursive | record => rw [parts, h, Option.getD_some]; all_goals simp
  | _ => cases h

theorem type_mem_parts {fields : List Field} {f : Field} (h : ty.fieldsOf? c = some fields)
    (hf : f ∈ fields) : f.type ∈ ty.parts c := by
  rw [parts_of_fieldsOf? h]
  exact List.mem_map_of_mem hf

theorem Reached.part {roots : List Descriptor} (h : Reached c roots ty) (hp : inner ∈ ty.parts c) :
    Reached c roots inner := by
  obtain ⟨root, mem, reaches⟩ := h
  exact ⟨root, mem, reaches.tail hp⟩

theorem Reached.reaches {roots : List Descriptor} (h : Reached c roots ty)
    (further : ty.Reaches c inner) : Reached c roots inner := by
  obtain ⟨root, mem, reaches⟩ := h
  exact ⟨root, mem, reaches.trans further⟩

theorem Reached.mono {roots others : List Descriptor} (sub : ∀ root ∈ others, root ∈ roots)
    (h : Reached c others ty) : Reached c roots ty := by
  obtain ⟨root, mem, reaches⟩ := h
  exact ⟨root, sub root mem, reaches⟩

/-- What holds of the roots and passes to parts holds of all that is reached. -/
theorem Reached.induction {roots : List Descriptor} {P : Descriptor → Prop}
    (start : ∀ root ∈ roots, P root) (step : ∀ s part, P s → part ∈ s.parts c → P part)
    (h : Reached c roots ty) : P ty := by
  obtain ⟨root, mem, reaches⟩ := h
  induction reaches with
  | refl => exact start root mem
  | tail _ edge ih => exact step _ _ ih edge

theorem reached_singleton {root : Descriptor} : Reached c [root] ty ↔ root.Reaches c ty := by
  simp [Reached]

theorem fieldsOf?_of_structOf? {d : StructDef} (h : ty.structOf? c = some d) :
    ty.fieldsOf? c = some d.fields := by
  cases ty with
  | struct | recursive => rw [fieldsOf?, h, Option.map_some]; all_goals simp
  | _ => cases h

end parts

/-! ### Mentions are reached -/

/-- The mentions of a part are mentions of the type, unless the part is a field of a struct. -/
theorem mentions_subset_of_mem_parts {c : Catalog} {ty part : Descriptor}
    (h : ty.structOf? c = none) (hp : part ∈ ty.parts c) : mentions part ⊆ mentions ty := by
  cases ty with
  | leaf l => cases hp
  | optional t | withDefault t _ | constrained t _ | array t | map _ t =>
      rw [List.mem_singleton.1 hp]
      exact List.Subset.refl _
  | sum left right =>
      cases hn : (sum left right).nullableInner? with
      | some inner =>
          rw [parts_nullable hn, List.mem_singleton] at hp
          rw [mentions_nullable hn, hp]
          exact List.Subset.refl _
      | none =>
          rw [parts_sum hn] at hp
          rw [mentions_sum hn]
          simp only [List.mem_cons, List.not_mem_nil, or_false] at hp
          intro m hm
          rcases hp with rfl | rfl
          · exact List.mem_append_left _ hm
          · exact List.mem_append_right _ hm
  | record fields =>
      obtain ⟨f, hf, rfl⟩ := List.mem_map.1 hp
      rw [mentions, fieldMentions_eq_flatMap]
      exact fun m hm => List.mem_flatMap.2 ⟨f, hf, hm⟩
  | struct | recursive => simp [parts, fieldsOf?, h] at hp

/-- The mention that a leaf or a reference to a struct is. -/
def mention? : Descriptor → Option Mention
  | .leaf l => some (.leaf l)
  | .struct id => some (.struct (some id))
  | .recursive id => some (.struct id)
  | _ => none

theorem mentions_of_mention? {ty : Descriptor} {m : Mention} (h : ty.mention? = some m) :
    ty.mentions = [m] := by
  cases ty with
  | leaf | struct | recursive => rw [← Option.some.inj h]; rfl
  | _ => cases h

theorem mention?_eq_leaf {ty : Descriptor} {l : Leaf} (h : ty.mention? = some (.leaf l)) :
    ty = .leaf l := by
  cases ty with
  | leaf => cases h; rfl
  | _ => cases h

theorem structOf?_of_mention? {c : Catalog} {ty : Descriptor} {id : Option StructId}
    (h : ty.mention? = some (.struct id)) : ty.structOf? c = c.resolve? id := by
  cases ty with
  | struct | recursive => cases h; rfl
  | _ => cases h

theorem exists_reaches_of_mem_mentions (c : Catalog) {m : Mention} :
    ∀ ty : Descriptor, m ∈ ty.mentions → ∃ inner, Reaches c ty inner ∧ inner.mention? = some m
  | .leaf l, h => ⟨.leaf l, .refl, congrArg some (List.mem_singleton.1 h).symm⟩
  | .optional t, h | .withDefault t _, h | .constrained t _, h | .array t, h | .map _ t, h => by
      obtain ⟨inner, reached, named⟩ := exists_reaches_of_mem_mentions c t h
      exact ⟨inner, reached.head (List.mem_singleton_self t), named⟩
  | .sum left right, h => by
      cases hn : (sum left right).nullableInner? with
      | some t =>
          rw [mentions_nullable hn] at h
          have smaller := sizeOf_lt_of_nullableInner? hn
          obtain ⟨inner, reached, named⟩ := exists_reaches_of_mem_mentions c t h
          exact ⟨inner, reached.head (by rw [parts_nullable hn]; simp), named⟩
      | none =>
          rw [mentions_sum hn] at h
          rcases List.mem_append.1 h with h | h
          · obtain ⟨inner, reached, named⟩ := exists_reaches_of_mem_mentions c left h
            exact ⟨inner, reached.head (by rw [parts_sum hn]; simp), named⟩
          · obtain ⟨inner, reached, named⟩ := exists_reaches_of_mem_mentions c right h
            exact ⟨inner, reached.head (by rw [parts_sum hn]; simp), named⟩
  | .struct i, h => ⟨.struct i, .refl, congrArg some (List.mem_singleton.1 h).symm⟩
  | .recursive i, h => ⟨.recursive i, .refl, congrArg some (List.mem_singleton.1 h).symm⟩
  | .record fields, h => by
      rw [mentions, fieldMentions_eq_flatMap] at h
      obtain ⟨f, hf, hm⟩ := List.mem_flatMap.1 h
      have smaller := Member.sizeOf_type_lt hf
      obtain ⟨inner, reached, named⟩ := exists_reaches_of_mem_mentions c f.type hm
      exact ⟨inner, reached.head (type_mem_parts rfl hf), named⟩

theorem exists_reached_of_mem_mentions {c : Catalog} {roots : List Descriptor} {m : Mention}
    {s : Descriptor} (reached : Reached c roots s) (h : m ∈ s.mentions) :
    ∃ inner, Reached c roots inner ∧ inner.mention? = some m := by
  obtain ⟨inner, further, named⟩ := exists_reaches_of_mem_mentions c s h
  exact ⟨inner, reached.reaches further, named⟩

end Descriptor
end ApiContract
