import ApiContract.Parameter.Candidate
import ApiContract.Proofs.Likeness
import ApiContract.Proofs.Reach
import ApiContract.Proofs.Schema.Worklist

/-! # Optional types in place of sums with the leaf of absence

There are two ways to say that a type admits null: an optional type, and a sum one of whose sides is the
leaf of absence.  The optional form of a type says it in the first way only, at every depth, in the types
of keys and in the fields of the structs of the catalog.

Nothing can tell a type from its optional form (`Descriptor.optionalForm_agrees`).  Reading cannot, since
the two are alike (`Descriptor.alike_optionalForm`); and the schemas of the two mention the same and have
the same fragments, so that compiling them publishes the same and fails alike. -/

namespace ApiContract

namespace Descriptor

mutual

/-- The type with an optional type in place of each sum with the leaf of absence. -/
def optionalForm : Descriptor → Descriptor
  | .leaf l => .leaf l
  | .optional inner => .optional (optionalForm inner)
  | .withDefault inner value => .withDefault (optionalForm inner) value
  | .constrained inner con => .constrained (optionalForm inner) con
  | .sum left right =>
    if right.isAbsence then .optional (optionalForm left)
    else if left.isAbsence then .optional (optionalForm right)
    else .sum (optionalForm left) (optionalForm right)
  | .struct id => .struct id
  | .recursive id => .recursive id
  | .array element => .array (optionalForm element)
  | .map key value => .map (optionalForm key) (optionalForm value)
  | .record fields => .record (optionalFields fields)
termination_by structural ty => ty

/-- The optional forms of the fields of a struct or record. -/
def optionalFields : List Field → List Field
  | [] => []
  | f :: fields => optionalField f :: optionalFields fields
termination_by structural fields => fields

/-- The optional form of a field. -/
def optionalField : Field → Field
  | ⟨name, type, description⟩ => ⟨name, optionalForm type, description⟩
termination_by structural field => field

end

end Descriptor

/-- The struct with the optional forms of its fields. -/
def StructDef.optionalForm (d : StructDef) : StructDef :=
  { d with fields := Descriptor.optionalFields d.fields }

/-- The catalog with the optional forms of its structs. -/
def Catalog.optionalForm (c : Catalog) : Catalog := ⟨c.structs.map StructDef.optionalForm⟩

theorem Catalog.find?_optionalForm (c : Catalog) (id : StructId) :
    c.optionalForm.find? id = (c.find? id).map StructDef.optionalForm :=
  List.getElem?_map

theorem Catalog.resolve?_optionalForm (c : Catalog) (id : Option StructId) :
    c.optionalForm.resolve? id = (c.resolve? id).map StructDef.optionalForm := by
  cases id with
  | none => rfl
  | some i => exact c.find?_optionalForm i

namespace Descriptor

section form
variable {ty inner : Descriptor}

/-! ### The form of a type -/

theorem optionalForm_nullable (h : ty.nullableInner? = some inner) :
    ty.optionalForm = .optional inner.optionalForm := by
  rcases nullableInner?_eq_some h with rfl | ⟨right, rfl, hr⟩ | ⟨left, rfl, hr, hl⟩
  · rw [optionalForm]
  · rw [optionalForm, if_pos hr]
  · rw [optionalForm, hr, if_neg Bool.false_ne_true, if_pos hl]

theorem optionalForm_sum {left right : Descriptor} (h : (sum left right).nullableInner? = none) :
    (sum left right).optionalForm = .sum left.optionalForm right.optionalForm := by
  obtain ⟨hl, hr⟩ := nullableInner?_sum_eq_none h
  rw [optionalForm, hr, if_neg Bool.false_ne_true, hl, if_neg Bool.false_ne_true]

theorem optionalField_eq (f : Field) : optionalField f = { f with type := f.type.optionalForm } := by
  cases f; rfl

theorem optionalFields_eq_map (fields : List Field) :
    optionalFields fields = fields.map optionalField := by
  induction fields with
  | nil => rfl
  | cons f rest ih => rw [optionalFields, ih, List.map_cons]

theorem isAbsence_optionalForm (ty : Descriptor) : ty.optionalForm.isAbsence = ty.isAbsence := by
  cases ty with
  | sum left right =>
      rw [optionalForm]
      split
      · rfl
      · split <;> rfl
  | _ => rfl

theorem nullableInner?_sum_optionalForm {left right : Descriptor}
    (h : (sum left right).nullableInner? = none) :
    (sum left.optionalForm right.optionalForm).nullableInner? = none := by
  obtain ⟨hl, hr⟩ := nullableInner?_sum_eq_none h
  apply nullableInner?_sum_of_not_isAbsence
  · rw [isAbsence_optionalForm, hl]
  · rw [isAbsence_optionalForm, hr]

theorem fieldsAlike_optionalFields {follows : StructId → StructId → Prop} {fields : List Field}
    (types : ∀ f ∈ fields, Alike follows f.type f.type.optionalForm) :
    Fieldwise (Alike follows) fields (optionalFields fields) := by
  rw [optionalFields_eq_map]
  constructor
  · rw [List.map_map]
    refine List.map_congr_left fun f _ => ?_
    rw [Function.comp_apply, optionalField_eq]
  · intro i f g hf hg
    rw [List.getElem?_map, hf, Option.map_some, Option.some.injEq] at hg
    rw [← hg, optionalField_eq]
    exact types f (List.mem_of_getElem? hf)

/-- A type is alike to its optional form, with the structs in their places. -/
theorem alike_optionalForm : ∀ ty : Descriptor, Alike Eq ty ty.optionalForm
  | .leaf l => .leaf l
  | .optional inner => .nullable rfl (by rw [optionalForm, nullableInner?]) (alike_optionalForm inner)
  | .withDefault inner value => .withDefault value (alike_optionalForm inner)
  | .constrained inner con => .constrained con (alike_optionalForm inner)
  | .sum left right => by
      cases hn : (sum left right).nullableInner? with
      | some inner =>
          have smaller := sizeOf_lt_of_nullableInner? hn
          rw [optionalForm_nullable hn]
          exact .nullable hn rfl (alike_optionalForm inner)
      | none =>
          rw [optionalForm_sum hn]
          exact .sum hn (nullableInner?_sum_optionalForm hn) (alike_optionalForm left)
            (alike_optionalForm right)
  | .struct id => .struct rfl
  | .recursive none => .gone
  | .recursive (some id) => .recursive rfl
  | .array element => .array (alike_optionalForm element)
  | .map key value => .map (alike_optionalForm key) (alike_optionalForm value)
  | .record fields => by
      have alike : Fieldwise (Alike Eq) fields (optionalFields fields) :=
        fieldsAlike_optionalFields fun f hf => by
          have smaller := Member.sizeOf_type_lt hf
          exact alike_optionalForm f.type
      exact .record alike.names alike.types

theorem mirrors_optionalForm (c : Catalog) : c.Mirrors c.optionalForm Eq := by
  rintro i j rfl
  rw [c.find?_optionalForm]
  cases c.find? i with
  | none => exact .none
  | some d => exact .some (fieldsAlike_optionalFields fun f _ => alike_optionalForm f.type)

/-! ### Raw values -/

theorem collectionElement?_optionalForm : ∀ ty : Descriptor,
    ty.optionalForm.collectionElement? = ty.collectionElement?.map optionalForm
  | .leaf _ | .struct _ | .recursive _ | .array _ | .map _ _ | .record _ => rfl
  | .optional inner => collectionElement?_optionalForm inner
  | .withDefault inner _ => collectionElement?_optionalForm inner
  | .constrained inner _ => collectionElement?_optionalForm inner
  | .sum left right => by
      cases hn : (sum left right).nullableInner? with
      | some inner =>
          have smaller := sizeOf_lt_of_nullableInner? hn
          rw [optionalForm_nullable hn, collectionElement?_nullable hn]
          exact collectionElement?_optionalForm inner
      | none =>
          rw [optionalForm_sum hn, collectionElement?_sum hn,
            collectionElement?_sum (nullableInner?_sum_optionalForm hn)]
          rfl

theorem wantsObject_optionalForm : ∀ ty : Descriptor, ty.optionalForm.wantsObject = ty.wantsObject
  | .leaf _ | .struct _ | .recursive _ | .array _ | .map _ _ | .record _ => rfl
  | .optional inner => wantsObject_optionalForm inner
  | .withDefault inner _ => wantsObject_optionalForm inner
  | .constrained inner _ => wantsObject_optionalForm inner
  | .sum left right => by
      cases hn : (sum left right).nullableInner? with
      | some inner =>
          have smaller := sizeOf_lt_of_nullableInner? hn
          rw [optionalForm_nullable hn, wantsObject_nullable hn]
          exact wantsObject_optionalForm inner
      | none =>
          rw [optionalForm_sum hn, wantsObject, wantsObject, wantsObject_optionalForm left,
            wantsObject_optionalForm right]

theorem candidate_optionalForm (raw : RawValue) (ty : Descriptor) (style : Style) :
    candidate raw ty.optionalForm style = candidate raw ty style := by
  have scalar (text : String) : scalarCandidate text ty.optionalForm = scalarCandidate text ty := by
    unfold scalarCandidate
    rw [wantsObject_optionalForm]
  unfold candidate
  simp only [collectionElement?_optionalForm, scalar]
  cases ty.collectionElement? with
  | none => rfl
  | some element =>
      cases raw with
      | single text => rfl
      | many texts => rcases texts with _ | ⟨text, _ | ⟨other, texts⟩⟩ <;> rfl

end form

/-! ### Schemas -/

section schema
variable (r : Registry) (c : Catalog)

theorem requiredNames_optionalFields (fields : List Field) :
    requiredNames (optionalFields fields) = requiredNames fields := by
  have required (f : Field) : (optionalField f).isRequired = f.isRequired := by
    rw [optionalField_eq]
    exact (alike_optionalForm f.type).isRequired_eq
  have name (f : Field) : (optionalField f).name = f.name := by rw [optionalField_eq]
  unfold requiredNames
  rw [optionalFields_eq_map, List.filter_map, List.map_map]
  simp only [Function.comp_def, required, name]

theorem refTo_optionalForm (d : Option StructDef) :
    refTo (d.map StructDef.optionalForm) = refTo d := by
  cases d <;> rfl

mutual

theorem fragment_optionalForm :
    ∀ ty : Descriptor, fragment r c.optionalForm ty.optionalForm = fragment r c ty
  | .leaf _ => rfl
  | .optional inner => congrArg nullable (fragment_optionalForm inner)
  | .withDefault inner _ => fragment_optionalForm inner
  | .constrained inner _ => fragment_optionalForm inner
  | .sum left right => by
      have first := fragment_optionalForm left
      have second := fragment_optionalForm right
      cases hn : (sum left right).nullableInner? with
      | some inner =>
          rw [optionalForm_nullable hn, fragment_nullable hn, fragment]
          rcases nullableInner?_eq_some hn with h | ⟨_, h, -⟩ | ⟨_, h, -⟩ <;> cases h
          · rw [first]
          · rw [second]
      | none =>
          rw [optionalForm_sum hn, fragment_sum hn, fragment_sum (nullableInner?_sum_optionalForm hn),
            first, second]
  | .struct id => by
      rw [optionalForm, fragment, fragment, c.find?_optionalForm, refTo_optionalForm]
  | .recursive id => by
      rw [optionalForm, fragment, fragment, c.resolve?_optionalForm, refTo_optionalForm]
  | .array element => by rw [optionalForm, fragment, fragment, fragment_optionalForm element]
  | .map _ value => by rw [optionalForm, fragment, fragment, fragment_optionalForm value]
  | .record fields => by
      rw [optionalForm, fragment, fragment, properties_optionalFields fields,
        requiredNames_optionalFields]

theorem properties_optionalFields : ∀ fields : List Field,
    properties r c.optionalForm (optionalFields fields) = properties r c fields
  | [] => rfl
  | f :: fields => by
      rw [optionalFields, properties, properties, property_optionalField f,
        properties_optionalFields fields]

theorem property_optionalField :
    ∀ f : Field, property r c.optionalForm (optionalField f) = property r c f
  | ⟨name, type, description⟩ => by
      rw [optionalField, property, property, fragment_optionalForm type]

end

mutual

theorem mentions_optionalForm : ∀ ty : Descriptor, mentions ty.optionalForm = mentions ty
  | .leaf _ | .struct _ | .recursive _ => rfl
  | .optional inner => mentions_optionalForm inner
  | .withDefault inner _ => mentions_optionalForm inner
  | .constrained inner _ => mentions_optionalForm inner
  | .sum left right => by
      have first := mentions_optionalForm left
      have second := mentions_optionalForm right
      cases hn : (sum left right).nullableInner? with
      | some inner =>
          rw [optionalForm_nullable hn, mentions_nullable hn, mentions]
          rcases nullableInner?_eq_some hn with h | ⟨_, h, -⟩ | ⟨_, h, -⟩ <;> cases h
          · exact first
          · exact second
      | none =>
          rw [optionalForm_sum hn, mentions_sum hn, mentions_sum (nullableInner?_sum_optionalForm hn),
            first, second]
  | .array element => mentions_optionalForm element
  | .map _ value => mentions_optionalForm value
  | .record fields => fieldMentions_optionalFields fields

theorem fieldMentions_optionalFields :
    ∀ fields : List Field, fieldMentions (optionalFields fields) = fieldMentions fields
  | [] => rfl
  | f :: fields => by
      rw [optionalFields, fieldMentions, fieldMentions, memberMentions_optionalField f,
        fieldMentions_optionalFields fields]

theorem memberMentions_optionalField : ∀ f : Field, memberMentions (optionalField f) = memberMentions f
  | ⟨_, type, _⟩ => mentions_optionalForm type

end

end schema
end Descriptor

namespace StructDef
variable (d : StructDef)

theorem canonicalName_optionalForm : d.optionalForm.canonicalName = d.canonicalName := rfl

theorem origin_optionalForm : d.optionalForm.origin = d.origin := rfl

theorem mentions_optionalForm : d.optionalForm.mentions = d.mentions :=
  Descriptor.fieldMentions_optionalFields d.fields

theorem schema_optionalForm (r : Registry) (c : Catalog) :
    d.optionalForm.schema r c.optionalForm = d.schema r c := by
  show objectSchema (Descriptor.properties r c.optionalForm (Descriptor.optionalFields d.fields))
    (Descriptor.requiredNames (Descriptor.optionalFields d.fields)) d.description = _
  rw [Descriptor.properties_optionalFields, Descriptor.requiredNames_optionalFields]
  rfl

end StructDef

theorem Document.publish_optionalForm (r : Registry) (c : Catalog) (ms : List Mention) (doc : Document) :
    doc.publish r c.optionalForm ms = doc.publish r c ms := by
  fun_induction publish r c ms doc with
  | case1 doc => exact publish_nil r c.optionalForm doc
  | case2 doc l rest registered ih => rw [publish_leaf, if_pos registered, ih]
  | case3 doc l rest unknown => rw [publish_leaf, if_neg unknown]
  | case4 doc id rest gone =>
      rw [publish_struct, c.resolve?_optionalForm, gone]
      rfl
  | case5 doc id rest d found taken ih =>
      rw [publish_struct, c.resolve?_optionalForm, found, Option.map_some]
      simp only [d.canonicalName_optionalForm, d.origin_optionalForm, taken, if_true, ih]
  | case6 doc id rest d found origin taken other =>
      rw [publish_struct, c.resolve?_optionalForm, found, Option.map_some]
      simp only [d.canonicalName_optionalForm, d.origin_optionalForm, taken]
      exact if_neg other
  | case7 doc id rest d found free ih =>
      rw [publish_struct, c.resolve?_optionalForm, found, Option.map_some]
      simp only [d.canonicalName_optionalForm, d.origin_optionalForm, free,
        d.mentions_optionalForm, d.schema_optionalForm, ih]

theorem Compiler.run_fragment_optionalForm (r : Registry) (c : Catalog) (ty : Descriptor)
    (doc : Document) : (fragment r c.optionalForm ty.optionalForm).run.run doc =
      (fragment r c ty).run.run doc := by
  rw [run_fragment, run_fragment, Descriptor.mentions_optionalForm, Document.publish_optionalForm,
    Descriptor.fragment_optionalForm]

/-- A type and its optional form take the same values and violations from every value, are compiled to
the same fragment and document or refused for the same mistake, may both be absent or not, have one
default, the same items up to their form, and the same candidate for every raw value in every style. -/
theorem Descriptor.optionalForm_agrees (c : Catalog) (ty : Descriptor) :
    (∀ v, coerce c.optionalForm ty.optionalForm v = coerce c ty v) ∧
    (∀ r doc, (Compiler.fragment r c.optionalForm ty.optionalForm).run.run doc =
      (Compiler.fragment r c ty).run.run doc) ∧
    ty.optionalForm.isRequired = ty.isRequired ∧
    ty.optionalForm.defaultValue? = ty.defaultValue? ∧
    ty.optionalForm.collectionElement? = ty.collectionElement?.map optionalForm ∧
    ∀ raw style, candidate raw ty.optionalForm style = candidate raw ty style := by
  have alike := alike_optionalForm ty
  refine ⟨?_, ?_, alike.isRequired_eq, alike.defaultValue?_eq, collectionElement?_optionalForm ty, ?_⟩
  · exact fun v => coerce_of_alike (mirrors_optionalForm c) alike v
  · exact fun r doc => Compiler.run_fragment_optionalForm r c ty doc
  · exact fun raw style => candidate_optionalForm raw ty style

end ApiContract
