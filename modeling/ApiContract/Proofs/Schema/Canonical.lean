import ApiContract.Schema.Fragment

/-! # Types up to the place of their structs

A catalog may hold several definitions with one origin and one name, as when the type of a struct is
built more than once.  The document cannot tell them apart, and neither does the canonical form of a
type: it puts the first of them in the place of each and does not say which references lead back.

Two definitions have the same fields (`StructDef.SameFields`) if their fields have one canonical form.
Then their properties are the same and the same of them are required, and what they mention is the
same up to the place of structs. -/

namespace ApiContract

/-- The place of the first definition with the origin and the name of the given one. -/
def Catalog.place (c : Catalog) (d : StructDef) : StructId :=
  c.structs.findIdx fun e => e.origin == d.origin && e.canonicalName == d.canonicalName

theorem Catalog.find?_place {c : Catalog} {d : StructDef} (h : d ∈ c.structs) :
    ∃ e, c.find? (c.place d) = some e ∧ e.origin = d.origin ∧ e.canonicalName = d.canonicalName := by
  have held : ∃ e ∈ c.structs, (e.origin == d.origin && e.canonicalName == d.canonicalName) = true :=
    ⟨d, h, by simp⟩
  refine ⟨_, List.findIdx_getElem?_eq_getElem_of_exists held, ?_⟩
  have alike := List.findIdx_getElem (w := List.findIdx_lt_length_of_exists held)
  simpa using alike

namespace Descriptor

/-! ### The canonical form -/

mutual

/-- The type with each struct replaced by the first of its origin and name. -/
def canonical (c : Catalog) : Descriptor → Descriptor
  | .leaf l => .leaf l
  | .optional inner => .optional (canonical c inner)
  | .withDefault inner value => .withDefault (canonical c inner) value
  | .constrained inner con => .constrained (canonical c inner) con
  | .sum left right => .sum (canonical c left) (canonical c right)
  | .struct id => ((c.find? id).map fun d => .struct (c.place d)).getD (.struct id)
  | .recursive id => ((c.resolve? id).map fun d => .struct (c.place d)).getD (.recursive id)
  | .array element => .array (canonical c element)
  | .map key value => .map (canonical c key) (canonical c value)
  | .record fields => .record (canonicalFields c fields)
termination_by structural ty => ty

/-- The canonical forms of the fields of a struct or record. -/
def canonicalFields (c : Catalog) : List Field → List Field
  | [] => []
  | f :: fields => canonicalField c f :: canonicalFields c fields
termination_by structural fields => fields

/-- The canonical form of a field. -/
def canonicalField (c : Catalog) : Field → Field
  | ⟨name, type, description⟩ => ⟨name, canonical c type, description⟩
termination_by structural field => field

end

theorem canonicalField_eq (c : Catalog) (f : Field) :
    canonicalField c f = { f with type := canonical c f.type } := by
  cases f; rfl

end Descriptor

/-- Definitions whose fields differ at most in which of several like structs they refer to. -/
def StructDef.SameFields (c : Catalog) (d e : StructDef) : Prop :=
  Descriptor.canonicalFields c d.fields = Descriptor.canonicalFields c e.fields

/-- The same mention with the first struct of the mentioned one's origin and name. -/
def Mention.canonical (c : Catalog) : Mention → Mention
  | .leaf l => .leaf l
  | .struct id => ((c.resolve? id).map fun d => .struct (some (c.place d))).getD (.struct id)

namespace Descriptor
variable (r : Registry) (c : Catalog)

/-! ### What the canonical form keeps -/

theorem isAbsence_canonical (ty : Descriptor) : (canonical c ty).isAbsence = ty.isAbsence := by
  cases ty with
  | struct id => rw [canonical]; cases c.find? id <;> rfl
  | recursive id => rw [canonical]; cases c.resolve? id <;> rfl
  | _ => rfl

theorem nullableInner?_canonical (ty : Descriptor) :
    (canonical c ty).nullableInner? = ty.nullableInner?.map (canonical c) := by
  cases ty with
  | sum left right =>
      simp only [canonical, nullableInner?, isAbsence_canonical]
      split
      · rfl
      · split <;> rfl
  | struct id => rw [canonical]; cases c.find? id <;> rfl
  | recursive id => rw [canonical]; cases c.resolve? id <;> rfl
  | _ => rfl

theorem isRequired_canonical : ∀ ty : Descriptor, (canonical c ty).isRequired = ty.isRequired
  | .optional _ | .withDefault _ _ | .leaf _ | .array _ | .map _ _ | .record _ => rfl
  | .constrained inner _ => isRequired_canonical inner
  | .sum left right => by
      have inner := nullableInner?_canonical c (sum left right)
      rw [canonical] at inner ⊢
      rw [isRequired, isRequired, inner, Option.isNone_map]
      all_goals simp [isAbsence]
  | .struct id => by rw [canonical]; cases c.find? id <;> rfl
  | .recursive id => by rw [canonical]; cases c.resolve? id <;> rfl

theorem requiredNames_canonicalFields (fields : List Field) :
    requiredNames (canonicalFields c fields) = requiredNames fields := by
  induction fields with
  | nil => rfl
  | cons f rest ih =>
      have required : (canonicalField c f).isRequired = f.isRequired := by
        rw [canonicalField_eq]
        exact isRequired_canonical c f.type
      have name : (canonicalField c f).name = f.name := by rw [canonicalField_eq]
      unfold requiredNames at ih ⊢
      rw [canonicalFields, List.filter_cons, List.filter_cons, required]
      split
      · rw [List.map_cons, List.map_cons, ih, name]
      · exact ih

/-- Structs of one name are referred to in one way. -/
theorem refTo_place {id : Option StructId} {d : StructDef} (h : c.resolve? id = some d) :
    refTo (c.find? (c.place d)) = refTo (c.resolve? id) := by
  obtain ⟨e, found, -, name⟩ := Catalog.find?_place (Catalog.mem_of_resolve? h)
  rw [found, h, refTo, refTo, Option.map_some, Option.map_some, name]

mutual

theorem fragment_canonical : ∀ ty : Descriptor, fragment r c (canonical c ty) = fragment r c ty
  | .leaf _ => rfl
  | .optional inner => congrArg nullable (fragment_canonical inner)
  | .withDefault inner _ => fragment_canonical inner
  | .constrained inner _ => fragment_canonical inner
  | .sum left right => by
      rw [canonical, fragment, fragment, isAbsence_canonical, isAbsence_canonical,
        fragment_canonical left, fragment_canonical right]
  | .struct id => by
      cases h : c.find? id with
      | none => rw [canonical, h]; rfl
      | some d => rw [canonical, h]; exact refTo_place c (show c.resolve? (some id) = some d from h)
  | .recursive id => by
      cases h : c.resolve? id with
      | none => rw [canonical, h]; rfl
      | some d => rw [canonical, h]; exact refTo_place c h
  | .array element => by rw [canonical, fragment, fragment, fragment_canonical element]
  | .map _ value => by rw [canonical, fragment, fragment, fragment_canonical value]
  | .record fields => by
      rw [canonical, fragment, fragment, properties_canonicalFields fields, requiredNames_canonicalFields]

theorem properties_canonicalFields :
    ∀ fields : List Field, properties r c (canonicalFields c fields) = properties r c fields
  | [] => rfl
  | f :: fields => by
      rw [canonicalFields, properties, properties, property_canonicalField f,
        properties_canonicalFields fields]

theorem property_canonicalField : ∀ f : Field, property r c (canonicalField c f) = property r c f
  | ⟨name, type, description⟩ => by
      rw [canonicalField, property, property, fragment_canonical type]

end

mutual

theorem mentions_canonical :
    ∀ ty : Descriptor, mentions (canonical c ty) = (mentions ty).map (Mention.canonical c)
  | .leaf _ => rfl
  | .optional inner => mentions_canonical inner
  | .withDefault inner _ => mentions_canonical inner
  | .constrained inner _ => mentions_canonical inner
  | .sum left right => by
      rw [canonical, mentions, mentions, isAbsence_canonical, isAbsence_canonical,
        mentions_canonical left, mentions_canonical right]
      split
      · rfl
      · split
        · rfl
        · exact List.map_append.symm
  | .struct id => by
      rw [canonical, mentions, List.map_singleton, Mention.canonical]
      show _ = [((c.find? id).map _).getD _]
      cases c.find? id <;> rfl
  | .recursive id => by
      rw [canonical, mentions, List.map_singleton, Mention.canonical]
      cases c.resolve? id <;> rfl
  | .array element => mentions_canonical element
  | .map _ value => mentions_canonical value
  | .record fields => fieldMentions_canonicalFields fields

theorem fieldMentions_canonicalFields : ∀ fields : List Field,
    fieldMentions (canonicalFields c fields) = (fieldMentions fields).map (Mention.canonical c)
  | [] => rfl
  | f :: fields => by
      rw [canonicalFields, fieldMentions, fieldMentions, memberMentions_canonicalField f,
        fieldMentions_canonicalFields fields, List.map_append]

theorem memberMentions_canonicalField : ∀ f : Field,
    memberMentions (canonicalField c f) = (memberMentions f).map (Mention.canonical c)
  | ⟨_, type, _⟩ => mentions_canonical type

end

end Descriptor

namespace StructDef
variable {r : Registry} {c : Catalog} {d e : StructDef}

/-! ### Structs with the same fields -/

theorem SameFields.properties_eq (h : SameFields c d e) :
    Descriptor.properties r c d.fields = Descriptor.properties r c e.fields := by
  rw [← Descriptor.properties_canonicalFields, h, Descriptor.properties_canonicalFields]

theorem SameFields.requiredNames_eq (h : SameFields c d e) :
    Descriptor.requiredNames d.fields = Descriptor.requiredNames e.fields := by
  rw [← Descriptor.requiredNames_canonicalFields c, h, Descriptor.requiredNames_canonicalFields]

theorem SameFields.mentions_eq (h : SameFields c d e) :
    d.mentions.map (Mention.canonical c) = e.mentions.map (Mention.canonical c) := by
  unfold mentions
  rw [← Descriptor.fieldMentions_canonicalFields, h, Descriptor.fieldMentions_canonicalFields]

end StructDef
end ApiContract
