import ApiContract.Proofs.Schema.Conformance

/-! # Values that the published schema admits are accepted

The converse of conformance.  A schema cannot show constraints, formats of texts or demands on the
keys of a map.  For a type without these (`Descriptor.Expressible`) it shows all that coercion asks for:
every value that is valid against the fragment of the type, in the document compiled from it, can be
read at the type (`coerce_of_valid`).

The proof goes by induction on the value and, for one value, on the type, and turns each form of
fragment into what coercion at this type needs. -/

namespace ApiContract

/-- Types all of whose demands show in a schema: no constraints, leaves that are known by the type of
their values, maps that take any key; and, as for conformance, fields with different names and
structs that are told apart by origin and name. -/
structure Descriptor.Expressible (c : Catalog) (ty : Descriptor) : Prop where
  unconstrained : ∀ inner con, ¬ ty.Reaches c (.constrained inner con)
  leaves : ∀ l, ty.Reaches c (.leaf l) →
    l ∈ [Leaf.string, Leaf.integer, Leaf.number, Leaf.boolean, Leaf.any]
  keys : ∀ key value, ty.Reaches c (.map key value) → key = .leaf .string ∨ key = .leaf .any
  names : ∀ s fields, ty.Reaches c s → s.fieldsOf? c = some fields →
    (fields.map Member.name).Nodup
  uniform : Document.Uniform c ty

/-! ### Leaves -/

theorem Registry.read_of_valid {doc : Document} {l : Leaf}
    (known : l ∈ [Leaf.string, Leaf.integer, Leaf.number, Leaf.boolean, Leaf.any]) {v : Json}
    (valid : doc.Valid ((builtin.lookup l).getD (.obj [])) v) : l.read v = .ok v := by
  rw [lookup_builtin] at valid
  simp only [List.mem_cons, List.not_mem_nil, or_false] at known
  rcases known with rfl | rfl | rfl | rfl | rfl
  · have type := (Document.valid_typed "string").1 valid
    cases v with
    | str s => rfl
    | num n => cases n <;> simp [Json.typeNames] at type
    | _ => simp [Json.typeNames] at type
  · have type := (Document.valid_typed "integer").1 valid
    cases v with
    | num n =>
        cases n with
        | int n h => rfl
        | float x => simp [Json.typeNames] at type
    | _ => simp [Json.typeNames] at type
  · have type := (Document.valid_typed "number").1 valid
    cases v with
    | num n => rfl
    | _ => simp [Json.typeNames] at type
  · have type := (Document.valid_typed "boolean").1 valid
    cases v with
    | bool b => rfl
    | num n => cases n <;> simp [Json.typeNames] at type
    | _ => simp [Json.typeNames] at type
  · rfl

namespace Descriptor

/-! ### Objects -/

theorem lookup_properties (r : Registry) (c : Catalog) {fields : List Field}
    (names : (fields.map Member.name).Nodup) {f : Field} (hf : f ∈ fields) :
    (Entries.ofList (properties r c fields)).lookup f.name =
      some (describe f.description (fragment r c f.type)) := by
  have listed : (f.name, describe f.description (fragment r c f.type)) ∈ properties r c fields := by
    rw [properties_eq_map]
    exact List.mem_map.2 ⟨f, hf, property_eq r c f⟩
  obtain ⟨schema, found⟩ :=
    Option.isSome_iff_exists.1 (Entries.lookup_ofList_isSome_of_mem listed)
  have mem := Entries.mem_of_lookup_ofList found
  rw [properties_eq_map] at mem
  obtain ⟨g, hg, property⟩ := List.mem_map.1 mem
  rw [property_eq] at property
  obtain ⟨same, rfl⟩ := Prod.mk.inj property
  rw [found, List.inj_on_of_nodup_map names hg hf same]

theorem isRequired_of_not_mem_requiredNames {fields : List Field} {f : Field} (hf : f ∈ fields)
    (absent : f.name ∉ requiredNames fields) : f.isRequired = false := by
  refine Bool.eq_false_iff.2 fun required => absent ?_
  exact List.mem_map_of_mem (List.mem_filter.2 ⟨hf, required⟩)

/-- An object that is valid against the schema of some fields is read at them, if its members are read
at the fields for which they are valid. -/
theorem coerceFields_of_valid {c : Catalog} {doc : Document} {fields : List Field} {v : Json}
    {description : Option String} (names : (fields.map Member.name).Nodup)
    (valid : doc.Valid (objectSchema (properties Registry.builtin c fields) (requiredNames fields)
      description) v)
    (accepts : ∀ f ∈ fields, ∀ x, sizeOf x < sizeOf v →
      doc.Valid (fragment Registry.builtin c f.type) x → ∃ w, coerce c f.type x = .ok w) :
    ∃ w, coerceFields c fields v = .ok w := by
  obtain ⟨members, rfl, present, held⟩ := (Document.valid_objectSchema _ _ _).1 valid
  rw [coerceFields_succeeds_iff]
  intro f hf
  cases found : members.lookup f.name with
  | some x =>
      have property := held f.name _ x (lookup_properties Registry.builtin c names hf) found
      rw [Document.valid_describe (isObject_fragment c f.type)] at property
      exact accepts f hf x (Json.sizeOf_lookup_lt found) property
  | none =>
      intro _
      refine isRequired_of_not_mem_requiredNames hf fun required => ?_
      have := present f.name required
      rw [found] at this
      cases this

/-! ### Acceptance -/

theorem exists_structOf?_of_reaches {r : Registry} {c : Catalog} {root s : Descriptor} {doc : Document}
    (compiled : Document.publish r c root.mentions .empty = .ok doc) (uniform : Document.Uniform c root)
    (reached : root.Reaches c s) {id : Option StructId} (names : s.mention? = some (.struct id)) :
    ∃ d, s.structOf? c = some d := by
  rw [← List.flatMap_singleton mentions root] at compiled
  have honoured := Document.honours_of_reached compiled (Document.uniformRoots_singleton.2 uniform)
    (reached_singleton.2 reached)
  obtain ⟨d, found, -⟩ := honoured (.struct id) (by simp [mentions_of_mention? names])
  exact ⟨d, (structOf?_of_mention? names).trans found⟩

theorem coerce_of_valid_nullable {c : Catalog} {doc : Document} {ty inner : Descriptor} {v : Json}
    (hn : ty.nullableInner? = some inner) (valid : doc.Valid (fragment Registry.builtin c ty) v)
    (accepts : doc.Valid (fragment Registry.builtin c inner) v → ∃ w, coerce c inner v = .ok w) :
    ∃ w, coerce c ty v = .ok w := by
  rw [fragment_nullable hn, Document.valid_nullable (isObject_fragment c inner)] at valid
  rw [coerce_nullable hn]
  split
  · exact ⟨.null, rfl⟩
  · next present =>
    rcases valid with rfl | valid
    · exact absurd rfl present
    · exact accepts valid

theorem coerce_of_valid_sum {c : Catalog} {doc : Document} {left right : Descriptor} {v : Json}
    (hn : (sum left right).nullableInner? = none)
    (valid : doc.Valid (fragment Registry.builtin c (.sum left right)) v)
    (acceptsLeft : doc.Valid (fragment Registry.builtin c left) v → ∃ w, coerce c left v = .ok w)
    (acceptsRight : doc.Valid (fragment Registry.builtin c right) v → ∃ w, coerce c right v = .ok w) :
    ∃ w, coerce c (.sum left right) v = .ok w := by
  rw [fragment_sum hn, Document.valid_anyOf] at valid
  rw [coerce_sum hn]
  cases readLeft : coerce c left v with
  | ok w => exact ⟨w, rfl⟩
  | error vs =>
      obtain ⟨s, hs, valid⟩ := valid
      simp only [List.mem_cons, List.not_mem_nil, or_false] at hs
      rcases hs with rfl | rfl
      · obtain ⟨w, read⟩ := acceptsLeft valid
        rw [readLeft] at read
        cases read
      · obtain ⟨w, read⟩ := acceptsRight valid
        exact ⟨w, by rw [read]⟩

theorem coerce_of_valid_of_reaches {c : Catalog} {root : Descriptor} {doc : Document}
    (expressible : root.Expressible c)
    (compiled : Document.publish Registry.builtin c root.mentions .empty = .ok doc) :
    ∀ (ty : Descriptor) (v : Json), root.Reaches c ty →
      doc.Valid (fragment Registry.builtin c ty) v → ∃ w, coerce c ty v = .ok w := by
  intro ty v reached valid
  have fieldsAccept {fields : List Field} {description : Option String}
      (hf : ty.fieldsOf? c = some fields)
      (valid : doc.Valid (objectSchema (properties Registry.builtin c fields) (requiredNames fields)
        description) v) : ∃ w, coerceFields c fields v = .ok w := by
    refine coerceFields_of_valid (expressible.names ty fields reached hf) valid ?_
    intro f hf' x smaller valid
    have field := reached.tail (type_mem_parts hf hf')
    exact coerce_of_valid_of_reaches expressible compiled f.type x field valid
  have structAccepts {d : StructDef} (named : ty.structOf? c = some d)
      (valid : doc.Valid (refTo (some d)) v) : ∃ w, coerceFields c d.fields v = .ok w := by
    obtain ⟨description, published⟩ :=
      Document.schema?_of_reaches compiled expressible.uniform reached named
    obtain ⟨s, found, valid⟩ := (Document.valid_schemaRef d.canonicalName).1 valid
    rw [published] at found
    rw [← Option.some.inj found] at valid
    exact fieldsAccept (fieldsOf?_of_structOf? named) valid
  match ty with
  | .leaf l =>
      rw [coerce_leaf, Registry.read_of_valid (expressible.leaves l reached) valid]
      exact ⟨v, rfl⟩
  | .optional inner =>
      have part := reached.tail (List.mem_singleton_self inner)
      exact coerce_of_valid_nullable rfl valid
        (coerce_of_valid_of_reaches expressible compiled inner v part)
  | .withDefault inner fallback =>
      have part := reached.tail (List.mem_singleton_self inner)
      rw [coerce_withDefault]
      split
      · exact ⟨fallback, rfl⟩
      · exact coerce_of_valid_of_reaches expressible compiled inner v part valid
  | .constrained inner con => exact absurd reached (expressible.unconstrained inner con)
  | .sum left right =>
      cases hn : (sum left right).nullableInner? with
      | some inner =>
          have part := reached.tail (c := inner) (by rw [parts_nullable hn]; simp)
          have smaller := sizeOf_lt_of_nullableInner? hn
          exact coerce_of_valid_nullable hn valid
            (coerce_of_valid_of_reaches expressible compiled inner v part)
      | none =>
          have hparts := parts_sum (c := c) hn
          have partLeft := reached.tail (c := left) (by rw [hparts]; simp)
          have partRight := reached.tail (c := right) (by rw [hparts]; simp)
          exact coerce_of_valid_sum hn valid
            (coerce_of_valid_of_reaches expressible compiled left v partLeft)
            (coerce_of_valid_of_reaches expressible compiled right v partRight)
  | .struct id =>
      obtain ⟨d, named⟩ :=
        exists_structOf?_of_reaches compiled expressible.uniform reached rfl
      rw [fragment, show c.find? id = some d from named] at valid
      rw [coerce_struct, show c.find? id = some d from named]
      exact structAccepts named valid
  | .recursive id =>
      obtain ⟨d, named⟩ :=
        exists_structOf?_of_reaches compiled expressible.uniform reached rfl
      rw [fragment, show c.resolve? id = some d from named] at valid
      rw [coerce_recursive, show c.resolve? id = some d from named]
      exact structAccepts named valid
  | .array element =>
      have part := reached.tail (List.mem_singleton_self element)
      rw [fragment, Document.valid_array] at valid
      obtain ⟨items, rfl, valid⟩ := valid
      refine coerce_array_succeeds_iff.2 fun x hx => ?_
      have smaller := Json.sizeOf_item_lt hx
      exact coerce_of_valid_of_reaches expressible compiled element x part (valid x hx)
  | .map key value =>
      have part := reached.tail (List.mem_singleton_self value)
      rw [fragment, Document.valid_map] at valid
      obtain ⟨members, rfl, valid⟩ := valid
      refine coerce_map_succeeds_iff.2 fun m hm => ⟨⟨.str m.1, ?_⟩, ?_⟩
      · rcases expressible.keys key value reached with rfl | rfl <;> exact coerce_leaf c _ _
      · have smaller : sizeOf m.2 < sizeOf (Json.obj members) := Json.sizeOf_member_lt hm
        exact coerce_of_valid_of_reaches expressible compiled value m.2 part (valid m hm)
  | .record fields =>
      rw [coerce_record]
      exact fieldsAccept rfl valid
termination_by ty v => (sizeOf v, sizeOf ty)

/-- A value that is valid against the fragment of a type, in the document that is compiled from the
type, is read at the type. -/
theorem coerce_of_valid {c : Catalog} {ty : Descriptor} (expressible : ty.Expressible c)
    {schema : Json} {doc : Document}
    (compiled : (Compiler.fragment Registry.builtin c ty).run.run .empty = (.ok schema, doc))
    {v : Json} (valid : doc.Valid schema v) : ∃ w, ty.coerce c v = .ok w := by
  rw [Compiler.run_fragment] at compiled
  cases published : Document.publish Registry.builtin c ty.mentions .empty with
  | error e => rw [published] at compiled; cases compiled
  | ok final =>
      rw [published] at compiled
      cases compiled
      exact coerce_of_valid_of_reaches expressible published ty v .refl valid

/-! ### A linked list -/

theorem listNode_expressible : (struct 0).Expressible listCatalog where
  unconstrained inner con h := by
    rcases listNode_reaches h with h | h | h | h | h <;> cases h
  leaves l h := by
    rcases listNode_reaches h with h | h | h | h | h <;> cases h
    simp
  keys key value h := by
    rcases listNode_reaches h with h | h | h | h | h <;> cases h
  names := listNode_publishable.names
  uniform := listNode_publishable.uniform

/-- The document of linked lists. -/
def listDocument : Document :=
  Document.empty.add "Node" ⟨"list::Node", listNode.schema Registry.builtin listCatalog⟩

theorem valid_listNode {members : List (String × Json)} {n : Int}
    {inRange : -0x8000000000000000 ≤ n ∧ n < 0x10000000000000000}
    (value : members.lookup "value" = some (.num (.int n inRange)))
    (next : ∀ x, members.lookup "next" = some x → x = .null ∨ listDocument.Valid (schemaRef "Node") x)
    (weight : members.lookup "weight" = none) :
    listDocument.Valid (schemaRef "Node") (.obj members) := by
  have required : requiredNames listNode.fields = ["value"] := rfl
  have written : properties Registry.builtin listCatalog listNode.fields =
      [("value", describe (some "what it holds") (Registry.plain "integer")),
        ("next", nullable (schemaRef "Node")), ("weight", Registry.plain "integer")] := rfl
  refine (Document.valid_schemaRef "Node").2
    ⟨listNode.schema Registry.builtin listCatalog, rfl, ?_⟩
  refine (Document.valid_objectSchema _ _ _).2 ⟨members, rfl, ?_, ?_⟩
  · intro name hn
    rw [required, List.mem_singleton] at hn
    rw [hn, value]
    rfl
  · intro name fragment x hf hx
    have listed := Entries.mem_of_lookup_ofList hf
    rw [written] at listed
    simp only [List.mem_cons, Prod.mk.injEq, List.not_mem_nil, or_false] at listed
    rcases listed with ⟨rfl, rfl⟩ | ⟨rfl, rfl⟩ | ⟨rfl, rfl⟩
    · rw [value] at hx
      rw [← Option.some.inj hx, Document.valid_describe rfl, Document.valid_typed]
      exact List.mem_cons_self
    · rw [Document.valid_nullable rfl]
      exact next x hx
    · rw [weight] at hx
      cases hx

theorem coerce_of_valid_listNode : ∃ w, (struct 0).coerce listCatalog
    (.obj [("next", .obj [("color", .str "red"), ("next", .null), ("value", .ofInt 8)]),
      ("value", .ofInt 7)]) = .ok w := by
  refine coerce_of_valid listNode_expressible fragment_listNode ?_
  refine valid_listNode (by rfl) (fun x hx => .inr ?_) (by rfl)
  obtain rfl := Option.some.inj hx
  exact valid_listNode (by rfl) (fun x hx => .inl (Option.some.inj hx).symm) (by rfl)

end Descriptor
end ApiContract
