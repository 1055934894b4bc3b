import ApiContract.Schema.Document

/-! # Which values a schema holds of

`Document.Valid` is the reference reading of the keywords that fragments are written with: `type`,
`properties`, `required`, `items`, `additionalProperties`, `anyOf`, `$ref` and `nullable`.  All other
keywords say nothing about values, `description` and `format` among them.  A reference is looked up
by its name in the document, and `nullable` admits null whatever else the schema asks.

The schemas inside a schema are read in the same way, so validity is the least relation that is
closed under the keywords: a value is valid if finitely many steps show it, through references too.

Next to the relation stands one equivalence for each form of fragment (`valid_typed`, `valid_array`,
`valid_map`, `valid_anyOf`, `valid_schemaRef`, `valid_objectSchema`, `valid_nullable`), and no proof
about fragments need look at the keywords again. -/

namespace ApiContract

namespace Json

/-- The names of the types that a value is of.  An integer is a number written as one. -/
def typeNames : Json → List String
  | .null => ["null"]
  | .bool _ => ["boolean"]
  | .num (.int _ _) => ["integer", "number"]
  | .num (.float _) => ["number"]
  | .str _ => ["string"]
  | .arr _ => ["array"]
  | .obj _ => ["object"]

theorem mem_typeNames_object {v : Json} : "object" ∈ v.typeNames ↔ ∃ members, v = .obj members := by
  cases v with
  | num n => cases n <;> simp [typeNames]
  | _ => simp [typeNames]

theorem mem_typeNames_array {v : Json} : "array" ∈ v.typeNames ↔ ∃ items, v = .arr items := by
  cases v with
  | num n => cases n <;> simp [typeNames]
  | _ => simp [typeNames]

@[simp] theorem get?_object (members : List (String × Json)) (key : String) :
    (object members).get? key = members.reverse.lookup key :=
  Entries.lookup_ofList key members

theorem get?_set {schema : Json} (h : schema.isObject = true) (key name : String) (value : Json) :
    (schema.set key value).get? name = if name = key then some value else schema.get? name := by
  cases schema with
  | obj members => exact Entries.lookup_insert key name value members
  | _ => cases h

theorem isObject_set (schema : Json) (key : String) (value : Json) :
    (schema.set key value).isObject = schema.isObject := by
  cases schema <;> rfl

theorem isObject_describe (description : Option String) (schema : Json) :
    (Descriptor.describe description schema).isObject = schema.isObject := by
  cases description with
  | none => rfl
  | some text => exact isObject_set schema _ _

end Json

namespace Document

/-! ### The keywords -/

/-- What the keywords of a schema ask of a value, where `V` says which values the schemas inside it
hold of. -/
structure KeywordsHold (doc : Document) (V : Json → Json → Prop) (schema v : Json) : Prop where
  type : ∀ name, schema.get? "type" = some (.str name) → name ∈ v.typeNames
  required : ∀ names name members, schema.get? "required" = some (.arr names) →
    .str name ∈ names → v = .obj members → (members.lookup name).isSome
  properties : ∀ fragments name fragment members x, schema.get? "properties" = some (.obj fragments) →
    fragments.lookup name = some fragment → v = .obj members → members.lookup name = some x →
    V fragment x
  items : ∀ fragment elements x, schema.get? "items" = some fragment → v = .arr elements →
    x ∈ elements → V fragment x
  additionalProperties : ∀ fragment members name x,
    schema.get? "additionalProperties" = some fragment →
    ((schema.get? "properties").bind fun fragments => fragments.get? name) = none →
    v = .obj members → (name, x) ∈ members → V fragment x
  anyOf : ∀ fragments, schema.get? "anyOf" = some (.arr fragments) → ∃ s ∈ fragments, V s v
  ref : ∀ path, schema.get? "$ref" = some (.str path) →
    ∃ name s, path = "#/components/schemas/" ++ name ∧ doc.schema? name = some s ∧ V s v

/-- A value that a schema holds of. -/
inductive Valid (doc : Document) : Json → Json → Prop
  /-- The schema admits null. -/
  | null {schema : Json} (nullable : schema.get? "nullable" = some (.bool true)) :
    Valid doc schema .null
  /-- The value does what the keywords ask. -/
  | keywords {schema v : Json} (V : Json → Json → Prop) (inside : ∀ s x, V s x → Valid doc s x)
    (hold : KeywordsHold doc V schema v) : Valid doc schema v

/-- The keywords that ask something of a value. -/
def keywords : List String :=
  ["type", "required", "properties", "items", "additionalProperties", "anyOf", "$ref"]

section
variable {doc : Document} {V W : Json → Json → Prop} {schema other v : Json}

theorem KeywordsHold.mono (h : KeywordsHold doc V schema v) (le : ∀ s x, V s x → W s x) :
    KeywordsHold doc W schema v where
  type := h.type
  required := h.required
  properties fragments name fragment members x hp hf hv hx :=
    le _ _ (h.properties fragments name fragment members x hp hf hv hx)
  items fragment elements x hi hv hx := le _ _ (h.items fragment elements x hi hv hx)
  additionalProperties fragment members name x ha hp hv hx :=
    le _ _ (h.additionalProperties fragment members name x ha hp hv hx)
  anyOf fragments ha := by
    obtain ⟨s, hs, valid⟩ := h.anyOf fragments ha
    exact ⟨s, hs, le _ _ valid⟩
  ref path hr := by
    obtain ⟨name, s, hpath, found, valid⟩ := h.ref path hr
    exact ⟨name, s, hpath, found, le _ _ valid⟩

theorem KeywordsHold.congr (agree : ∀ key ∈ keywords, schema.get? key = other.get? key)
    (h : KeywordsHold doc V schema v) : KeywordsHold doc V other v where
  type := by rw [← agree "type" (by decide)]; exact h.type
  required := by rw [← agree "required" (by decide)]; exact h.required
  properties := by rw [← agree "properties" (by decide)]; exact h.properties
  items := by rw [← agree "items" (by decide)]; exact h.items
  additionalProperties := by
    rw [← agree "additionalProperties" (by decide), ← agree "properties" (by decide)]
    exact h.additionalProperties
  anyOf := by rw [← agree "anyOf" (by decide)]; exact h.anyOf
  ref := by rw [← agree "$ref" (by decide)]; exact h.ref

/-- Validity is closed under its own rules. -/
theorem valid_iff : doc.Valid schema v ↔
    (v = .null ∧ schema.get? "nullable" = some (.bool true)) ∨ doc.KeywordsHold doc.Valid schema v := by
  constructor
  · intro h
    cases h with
    | null nullable => exact .inl ⟨rfl, nullable⟩
    | keywords V inside hold => exact .inr (hold.mono inside)
  · rintro (⟨rfl, nullable⟩ | hold)
    · exact .null nullable
    · exact .keywords doc.Valid (fun _ _ h => h) hold

theorem valid_iff_keywords (h : schema.get? "nullable" = none) :
    doc.Valid schema v ↔ doc.KeywordsHold doc.Valid schema v := by
  rw [valid_iff, h]
  simp

theorem keywordsHold_congr (agree : ∀ key ∈ keywords, schema.get? key = other.get? key) :
    KeywordsHold doc V schema v ↔ KeywordsHold doc V other v := by
  have back : ∀ key ∈ keywords, other.get? key = schema.get? key := fun key hk => (agree key hk).symm
  exact ⟨.congr agree, .congr back⟩

theorem valid_congr (agree : ∀ key ∈ "nullable" :: keywords, schema.get? key = other.get? key) :
    doc.Valid schema v ↔ doc.Valid other v := by
  have asked : ∀ key ∈ keywords, schema.get? key = other.get? key := fun key hk =>
    agree key (List.mem_cons_of_mem _ hk)
  rw [valid_iff, valid_iff, agree "nullable" List.mem_cons_self, keywordsHold_congr asked]

/-! ### The forms of fragments -/

theorem valid_empty : doc.Valid (.obj []) v :=
  .keywords doc.Valid (fun _ _ h => h) (by constructor <;> simp [Json.get?])

theorem valid_typed (name : String) :
    doc.Valid (Registry.plain name) v ↔ name ∈ v.typeNames := by
  unfold Registry.plain
  rw [valid_iff_keywords (by simp)]
  constructor
  · intro h
    exact h.type name (by simp)
  · intro h
    constructor <;> simp [h]

theorem valid_formatted (format : String) :
    doc.Valid (Registry.formatted format) v ↔ "string" ∈ v.typeNames := by
  rw [← valid_typed "string"]
  refine valid_congr fun key hk => ?_
  have ignored : key ≠ "format" := by rintro rfl; revert hk; decide
  simp [Registry.formatted, Registry.plain, ignored]

theorem valid_array (fragment : Json) :
    doc.Valid (.object [("type", .str "array"), ("items", fragment)]) v ↔
      ∃ elements, v = .arr elements ∧ ∀ x ∈ elements, doc.Valid fragment x := by
  rw [valid_iff_keywords (by simp)]
  constructor
  · intro h
    have type := h.type "array" (by simp)
    obtain ⟨elements, rfl⟩ := Json.mem_typeNames_array.1 type
    refine ⟨elements, rfl, fun x hx => ?_⟩
    exact h.items fragment elements x (by simp) rfl hx
  · rintro ⟨elements, rfl, valid⟩
    constructor <;> simp [Json.typeNames]
    rintro _ _ x rfl rfl hx
    exact valid x hx

theorem valid_map (fragment : Json) :
    doc.Valid (.object [("type", .str "object"), ("additionalProperties", fragment)]) v ↔
      ∃ members, v = .obj members ∧ ∀ m ∈ members, doc.Valid fragment m.2 := by
  rw [valid_iff_keywords (by simp)]
  constructor
  · intro h
    have type := h.type "object" (by simp)
    obtain ⟨members, rfl⟩ := Json.mem_typeNames_object.1 type
    refine ⟨members, rfl, fun m hm => ?_⟩
    exact h.additionalProperties fragment members m.1 m.2
      (by simp)
      (by simp) rfl hm
  · rintro ⟨members, rfl, valid⟩
    constructor <;> simp [Json.typeNames]
    rintro _ _ name x rfl rfl hx
    exact valid (name, x) hx

theorem valid_anyOf (fragments : List Json) :
    doc.Valid (.object [("anyOf", .arr fragments)]) v ↔ ∃ s ∈ fragments, doc.Valid s v := by
  rw [valid_iff_keywords (by simp)]
  constructor
  · intro h
    exact h.anyOf fragments (by simp)
  · intro h
    constructor <;> simp
    exact h

theorem valid_schemaRef (name : String) :
    doc.Valid (schemaRef name) v ↔ ∃ s, doc.schema? name = some s ∧ doc.Valid s v := by
  unfold schemaRef
  rw [valid_iff_keywords (by simp)]
  constructor
  · intro h
    have reference := h.ref ("#/components/schemas/" ++ name)
      (by simp)
    obtain ⟨other, s, path, found, valid⟩ := reference
    rw [← String.append_right_inj _ |>.1 path] at found
    exact ⟨s, found, valid⟩
  · rintro ⟨s, found, valid⟩
    constructor <;> simp
    exact ⟨s, found, valid⟩

/-- The keywords of the schema of an object, of which `required` is there if it is not empty. -/
theorem get?_objectSchema (properties : List (String × Json)) (required : List String)
    (description : Option String) {key : String} (h : key ≠ "description") :
    (objectSchema properties required description).get? key =
      if key = "required" then if required = [] then none else some (.arr (required.map .str))
      else if key = "properties" then some (.object properties)
      else if key = "type" then some (.str "object") else none := by
  by_cases hr : key = "required"
  · cases required <;> cases description <;> simp [objectSchema, hr]
  · cases required <;> cases description <;> simp [objectSchema, h, hr]

theorem valid_objectSchema (properties : List (String × Json)) (required : List String)
    (description : Option String) :
    doc.Valid (objectSchema properties required description) v ↔ ∃ members, v = .obj members ∧
      (∀ name ∈ required, (members.lookup name).isSome) ∧
      ∀ name fragment x, (Entries.ofList properties).lookup name = some fragment →
        members.lookup name = some x → doc.Valid fragment x := by
  have get {key : String} (hk : key ≠ "description") :=
    get?_objectSchema properties required description hk
  rw [valid_iff_keywords (by simp [get])]
  constructor
  · intro h
    obtain ⟨members, rfl⟩ := Json.mem_typeNames_object.1 (h.type "object" (by simp [get]))
    refine ⟨members, rfl, ?_, ?_⟩
    · intro name hn
      refine h.required (required.map .str) name members ?_ (List.mem_map_of_mem hn) rfl
      simp [get, List.ne_nil_of_mem hn]
    · intro name fragment x hf hx
      exact h.properties _ name fragment members x (get (by simp)) hf rfl hx
  · rintro ⟨members, rfl, present, valid⟩
    constructor <;> simp [get, Json.typeNames]
    · rintro _ name _ - rfl hn rfl
      obtain ⟨x, hx⟩ := Option.isSome_iff_exists.1 (present name (by simpa using hn))
      exact ⟨x, Entries.mem_of_lookup hx⟩
    · intro fragments name fragment _ x hp hf rfl hx
      cases hp
      exact valid name fragment x hf hx

theorem valid_nullable {schema : Json} (h : schema.isObject = true) :
    doc.Valid (Descriptor.nullable schema) v ↔ v = .null ∨ doc.Valid schema v := by
  have keyword : (Descriptor.nullable schema).get? "nullable" = some (.bool true) := by
    rw [Descriptor.nullable, Json.get?_set h, if_pos rfl]
  have asked : ∀ key ∈ keywords, (Descriptor.nullable schema).get? key = schema.get? key := by
    intro key hk
    have ignored : key ≠ "nullable" := by rintro rfl; revert hk; decide
    rw [Descriptor.nullable, Json.get?_set h, if_neg ignored]
  rw [valid_iff, keyword, keywordsHold_congr asked, @valid_iff doc schema v]
  constructor
  · rintro (⟨rfl, -⟩ | hold)
    · exact .inl rfl
    · exact .inr (.inr hold)
  · rintro (rfl | ⟨rfl, -⟩ | hold)
    · exact .inl ⟨rfl, rfl⟩
    · exact .inl ⟨rfl, rfl⟩
    · exact .inr hold

theorem valid_describe {schema : Json} (h : schema.isObject = true) (description : Option String) :
    doc.Valid (Descriptor.describe description schema) v ↔ doc.Valid schema v := by
  cases description with
  | none => exact Iff.rfl
  | some text =>
      refine valid_congr fun key hk => ?_
      have ignored : key ≠ "description" := by rintro rfl; revert hk; decide
      rw [Descriptor.describe, Json.get?_set h, if_neg ignored]

end
end Document
end ApiContract
