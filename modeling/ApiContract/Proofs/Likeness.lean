import ApiContract.Proofs.Coercion

/-! # Types that are read alike

Two types, each with a catalog of its own, are alike (`Descriptor.Alike`) if they have the same form and
differ at most in where their structs stand and in how they admit null: an optional type is like a sum
with the leaf of absence.  Which structs stand for which is given by a relation; structs that stand for
each other must have fields that are alike (`Catalog.Mirrors`), which may lead back to them.

Reading cannot tell such types apart (`coerce_of_alike`): it gives the same value or the same
violations. -/

namespace ApiContract

namespace Descriptor

/-- Types of one form over structs that stand for each other. -/
inductive Alike (follows : StructId → StructId → Prop) : Descriptor → Descriptor → Prop
  | leaf (l : Leaf) : Alike follows (.leaf l) (.leaf l)
  | nullable {ty other inner otherInner : Descriptor} (admits : ty.nullableInner? = some inner)
    (otherAdmits : other.nullableInner? = some otherInner) (part : Alike follows inner otherInner) :
    Alike follows ty other
  | withDefault {inner otherInner : Descriptor} (value : Json) (part : Alike follows inner otherInner) :
    Alike follows (.withDefault inner value) (.withDefault otherInner value)
  | constrained {inner otherInner : Descriptor} (con : Constraint)
    (part : Alike follows inner otherInner) :
    Alike follows (.constrained inner con) (.constrained otherInner con)
  | sum {left right otherLeft otherRight : Descriptor}
    (general : (Descriptor.sum left right).nullableInner? = none)
    (otherGeneral : (Descriptor.sum otherLeft otherRight).nullableInner? = none)
    (first : Alike follows left otherLeft) (second : Alike follows right otherRight) :
    Alike follows (.sum left right) (.sum otherLeft otherRight)
  | struct {id other : StructId} (h : follows id other) : Alike follows (.struct id) (.struct other)
  | recursive {id other : StructId} (h : follows id other) :
    Alike follows (.recursive (some id)) (.recursive (some other))
  | gone : Alike follows (.recursive none) (.recursive none)
  | array {element other : Descriptor} (part : Alike follows element other) :
    Alike follows (.array element) (.array other)
  | map {key value otherKey otherValue : Descriptor} (keys : Alike follows key otherKey)
    (values : Alike follows value otherValue) :
    Alike follows (.map key value) (.map otherKey otherValue)
  | record {fields others : List Field} (names : others.map Member.name = fields.map Member.name)
    (types : ∀ (i : Nat) (f g : Field), fields[i]? = some f → others[i]? = some g →
      Alike follows f.type g.type) : Alike follows (.record fields) (.record others)

/-- Fields of the same names whose types are related, one by one. -/
structure Fieldwise (related : Descriptor → Descriptor → Prop) (fields others : List Field) :
    Prop where
  names : others.map Member.name = fields.map Member.name
  types : ∀ (i : Nat) (f g : Field), fields[i]? = some f → others[i]? = some g →
    related f.type g.type

section fieldwise
variable {related : Descriptor → Descriptor → Prop} {fields others : List Field}

theorem Fieldwise.exists_field (h : Fieldwise related fields others) {i : Nat} {g : Field}
    (hg : others[i]? = some g) : ∃ f, fields[i]? = some f ∧ f.name = g.name ∧ related f.type g.type := by
  have named := congrArg (fun names : List String => names[i]?) h.names
  simp only [List.getElem?_map, hg, Option.map_some] at named
  obtain ⟨f, hf, name⟩ := Option.map_eq_some_iff.1 named.symm
  exact ⟨f, hf, name, h.types i f g hf hg⟩

theorem Fieldwise.map_eq {β : Type} {p q : Field → β} (h : Fieldwise related fields others)
    (same : ∀ f g : Field, f.name = g.name → related f.type g.type → q g = p f) :
    others.map q = fields.map p := by
  refine List.ext_getElem? fun i => ?_
  rw [List.getElem?_map, List.getElem?_map]
  cases hg : others[i]? with
  | none =>
      have named := congrArg (fun names : List String => names[i]?) h.names
      simp only [List.getElem?_map, hg, Option.map_none] at named
      rw [Option.map_eq_none_iff.1 named.symm]
      rfl
  | some g =>
      obtain ⟨f, hf, name, like⟩ := h.exists_field hg
      rw [hf, Option.map_some, Option.map_some, same f g name like]

end fieldwise

end Descriptor

/-- Structs that stand for each other have fields that are alike, or are both gone. -/
def Catalog.Mirrors (c other : Catalog) (follows : StructId → StructId → Prop) : Prop :=
  ∀ i j, follows i j → Option.Rel
    (fun d e : StructDef => Descriptor.Fieldwise (Descriptor.Alike follows) d.fields e.fields) (c.find? i) (other.find? j)

namespace Descriptor

section alike
variable {follows : StructId → StructId → Prop} {ty other : Descriptor}

/-! ### What can be told without reading -/

theorem Alike.isAbsence_eq (h : Alike follows ty other) : other.isAbsence = ty.isAbsence := by
  cases h with
  | nullable admits otherAdmits => rw [isAbsence_nullable admits, isAbsence_nullable otherAdmits]
  | _ => rfl

theorem Alike.isRequired_eq (h : Alike follows ty other) : other.isRequired = ty.isRequired := by
  induction h with
  | nullable admits otherAdmits => rw [isRequired_nullable admits, isRequired_nullable otherAdmits]
  | constrained _ _ ih => exact ih
  | sum general otherGeneral => rw [isRequired_sum general, isRequired_sum otherGeneral]
  | _ => rfl

theorem Alike.defaultValue?_eq (h : Alike follows ty other) :
    other.defaultValue? = ty.defaultValue? := by
  induction h with
  | nullable admits otherAdmits =>
      rw [defaultValue?_nullable admits, defaultValue?_nullable otherAdmits]
  | constrained _ _ ih => exact ih
  | _ => rfl

theorem Alike.isTextual_eq (h : Alike follows ty other) : other.isTextual = ty.isTextual := by
  induction h with
  | nullable admits otherAdmits _ ih =>
      rw [isTextual_nullable admits, isTextual_nullable otherAdmits, ih]
  | withDefault _ _ ih | constrained _ _ ih => exact ih
  | sum _ _ _ _ first second => rw [isTextual, isTextual, first, second]
  | _ => rfl

theorem Alike.meansNull_eq (h : Alike follows ty other) (v : Json) :
    other.meansNull v = ty.meansNull v := by
  cases v with
  | str s => simp only [meansNull, h.isTextual_eq]
  | _ => rfl

theorem Alike.checkConstraint_eq (h : Alike follows ty other) (con : Constraint) :
    other.checkConstraint con = ty.checkConstraint con := by
  funext v
  unfold checkConstraint
  rw [h.isRequired_eq]

end alike

/-! ### Reading the parts -/

section parts
variable {c d : Catalog} {v : Json}

theorem coerce_array_congr {element other : Descriptor}
    (parts : ∀ x, sizeOf x < sizeOf v → coerce d other x = coerce c element x) :
    coerce d (.array other) v = coerce c (.array element) v := by
  cases v with
  | arr items =>
      have same : items.mapIdx (fun i x => (coerce d other x).nest (indexPath i)) =
          items.mapIdx fun i x => (coerce c element x).nest (indexPath i) := by
        refine List.ext_getElem? fun i => ?_
        rw [List.getElem?_mapIdx, List.getElem?_mapIdx]
        cases found : items[i]? with
        | none => rfl
        | some x =>
            have smaller := Json.sizeOf_item_lt (List.mem_of_getElem? found)
            rw [Option.map_some, Option.map_some, parts x smaller]
      rw [coerce_array, coerce_array, same]
  | _ => rw [coerce, coerce]; all_goals simp

theorem coerce_map_congr {key value otherKey otherValue : Descriptor}
    (keys : ∀ x, sizeOf x < sizeOf v → coerce d otherKey x = coerce c key x)
    (values : ∀ x, sizeOf x < sizeOf v → coerce d otherValue x = coerce c value x) :
    coerce d (.map otherKey otherValue) v = coerce c (.map key value) v := by
  cases v with
  | obj members =>
      have same : ∀ m ∈ members,
          entryResult m.1 (coerce d otherKey (.str m.1)) (coerce d otherValue m.2) =
            entryResult m.1 (coerce c key (.str m.1)) (coerce c value m.2) := by
        intro m hm
        rw [keys _ (Json.sizeOf_key_lt hm), values _ (Json.sizeOf_member_lt hm)]
      rw [coerce_map, coerce_map, List.map_congr_left same]
  | _ => rw [coerce, coerce]; all_goals simp

/-- Nothing but its name and its type tells what a field contributes. -/
theorem fieldResult_congr {f g : Field} (name : g.name = f.name)
    (fallback : g.type.defaultValue? = f.type.defaultValue?)
    (required : g.type.isRequired = f.type.isRequired) (part : Option (Checked Json)) :
    fieldResult g part = fieldResult f part := by
  unfold fieldResult Member.isRequired
  rw [name, fallback, required]

theorem coerceFields_congr {follows : StructId → StructId → Prop} {fields others : List Field}
    (alike : Fieldwise (Alike follows) fields others)
    (parts : ∀ f g : Field, Alike follows f.type g.type → ∀ x, sizeOf x < sizeOf v →
      coerce d g.type x = coerce c f.type x) :
    coerceFields d others v = coerceFields c fields v := by
  cases v with
  | obj members =>
      have same : (others.map fun g => fieldResult g ((members.lookup g.name).map (coerce d g.type))) =
          fields.map fun f => fieldResult f ((members.lookup f.name).map (coerce c f.type)) := by
        refine alike.map_eq fun f g name like => ?_
        have read : (members.lookup g.name).map (coerce d g.type) =
            (members.lookup f.name).map (coerce c f.type) := by
          rw [← name]
          cases found : members.lookup f.name with
          | none => rfl
          | some x => exact congrArg some (parts f g like x (Json.sizeOf_lookup_lt found))
        rw [read, fieldResult_congr name.symm like.defaultValue?_eq like.isRequired_eq]
      rw [coerceFields_obj, coerceFields_obj, same]
  | _ => rw [coerceFields, coerceFields]; all_goals simp

end parts

/-! ### All types -/

/-- Types that are alike are read alike.  The induction goes along the recursion of coercion: the parts of
a list or object are smaller than the value, and under a wrapper the type is. -/
theorem coerce_of_alike {c d : Catalog} {follows : StructId → StructId → Prop}
    (mirrors : c.Mirrors d follows) {ty other : Descriptor} (h : Alike follows ty other) (v : Json) :
    coerce d other v = coerce c ty v := by
  have fields {fields others : List Field} (alike : Fieldwise (Alike follows) fields others) :
      coerceFields d others v = coerceFields c fields v :=
    coerceFields_congr alike fun f g like x smaller => coerce_of_alike mirrors like x
  have structs {i j : StructId} (h : follows i j) :
      coerce d (.struct j) v = coerce c (.struct i) v := by
    have mirrored := mirrors i j h
    rw [coerce_struct, coerce_struct]
    generalize c.find? i = found, d.find? j = otherFound at mirrored ⊢
    cases mirrored with
    | some alike => exact fields alike
    | none => rfl
  cases h with
  | leaf l => rw [coerce_leaf, coerce_leaf]
  | nullable admits otherAdmits part =>
      have smaller := sizeOf_lt_of_nullableInner? admits
      rw [coerce_nullable admits, coerce_nullable otherAdmits, part.meansNull_eq,
        coerce_of_alike mirrors part v]
  | withDefault value part =>
      rw [coerce_withDefault, coerce_withDefault, coerce_of_alike mirrors part v]
  | constrained con part =>
      rw [coerce_constrained, coerce_constrained, part.checkConstraint_eq,
        coerce_of_alike mirrors part v]
  | sum general otherGeneral first second =>
      rw [coerce_sum general, coerce_sum otherGeneral, coerce_of_alike mirrors first v,
        coerce_of_alike mirrors second v]
  | struct h => exact structs h
  | recursive h =>
      rw [coerce_recursive_some, coerce_recursive_some]
      exact structs h
  | gone => rw [coerce_recursive, coerce_recursive]; rfl
  | array part => exact coerce_array_congr fun x smaller => coerce_of_alike mirrors part x
  | map keys values =>
      exact coerce_map_congr (fun x smaller => coerce_of_alike mirrors keys x)
        fun x smaller => coerce_of_alike mirrors values x
  | record names types =>
      rw [coerce_record, coerce_record]
      exact fields ⟨names, types⟩
termination_by (sizeOf v, sizeOf ty)

end Descriptor
end ApiContract
