import ApiContract.Proofs.Coercion
import ApiContract.Proofs.Registry
import ApiContract.Proofs.Schema.Publication
import Mathlib.Data.List.Nodup

/-! # Coerced values conform to the published schema

Coercion and compilation read a type independently of each other.  They agree: what coercion gives at
a type is valid against the fragment of the type in the document that is compiled from it
(`valid_of_coerce`).

The proof goes by induction on the value that coercion gives and, for one value, on the type: the
members and items of a value are smaller than it, and wrappers are left in favour of smaller types.
The value that is read does not do, because an absent field may be filled with a default that has no
place in it, and the type alone does not do, because structs refer to each other in circles. -/

namespace ApiContract

/-- What conformance asks of a type and the types that it reaches: the leaves are built in, the names of
fields tell them apart, defaults are values of their types, and structs with one origin and one name
have the same fields. -/
structure Descriptor.Publishable (c : Catalog) (ty : Descriptor) : Prop where
  leaves : ∀ l, ty.Reaches c (.leaf l) → l ∈ Leaf.builtin
  names : ∀ s fields, ty.Reaches c s → s.fieldsOf? c = some fields →
    (fields.map Member.name).Nodup
  defaults : ∀ inner d, ty.Reaches c (.withDefault inner d) → inner.coerce c d = .ok d
  uniform : Document.Uniform c ty

namespace Descriptor

/-! ### Objects -/

theorem isObject_fragment (c : Catalog) (ty : Descriptor) :
    (fragment Registry.builtin c ty).isObject = true :=
  Registry.Assembled.builtin.isObject_fragment c ty

/-- A default stands under constraints alone, which no fragment shows. -/
theorem defaultValue?_eq_some (r : Registry) (c : Catalog) {d : Json} :
    ∀ ty : Descriptor, ty.defaultValue? = some d →
      ∃ inner, ty.Reaches c (.withDefault inner d) ∧ fragment r c ty = fragment r c inner
  | .withDefault inner value, h => by
      obtain rfl := Option.some.inj h
      exact ⟨inner, .refl, rfl⟩
  | .constrained ty con, h => by
      obtain ⟨inner, reached, same⟩ := defaultValue?_eq_some r c ty h
      exact ⟨inner, reached.head (List.mem_singleton_self ty), same⟩

/-- Coerced fields are valid against the schema of the fields, if what each field contributes is valid
against the fragment of the field. -/
theorem valid_of_coerceFields {c : Catalog} {doc : Document} {fields : List Field} {v w : Json}
    (names : (fields.map Member.name).Nodup) (description : Option String)
    (valid : ∀ f ∈ fields, ∀ members y, Contributes c members f y → sizeOf y < sizeOf w →
      doc.Valid (fragment Registry.builtin c f.type) y)
    (h : coerceFields c fields v = .ok w) :
    doc.Valid (objectSchema (properties Registry.builtin c fields) (requiredNames fields) description)
      w := by
  obtain ⟨members, entries, rfl, rfl, origin, present⟩ := coerceFields_members h
  rw [Document.valid_objectSchema]
  refine ⟨_, rfl, ?_, ?_⟩
  · intro name hn
    obtain ⟨f, hf, rfl⟩ := List.mem_map.1 hn
    obtain ⟨hf, required⟩ := List.mem_filter.1 hf
    obtain ⟨y, hy⟩ := present f hf (.inl required)
    exact Entries.lookup_ofList_isSome_of_mem hy
  · intro name schema y hs hy
    rw [properties_eq_map] at hs
    obtain ⟨g, hg, property⟩ := List.mem_map.1 (Entries.mem_of_lookup_ofList hs)
    rw [property_eq] at property
    obtain ⟨rfl, rfl⟩ := Prod.mk.inj property
    obtain ⟨f, hf, same, contributes⟩ := origin g.name y (Entries.mem_of_lookup_ofList hy)
    obtain rfl := List.inj_on_of_nodup_map names hf hg same
    rw [Document.valid_describe (isObject_fragment c f.type)]
    exact valid f hf members y contributes (Json.sizeOf_lookup_lt hy)

/-! ### Conformance -/

theorem valid_of_coerce_nullable {c : Catalog} {doc : Document} {ty inner : Descriptor} {v w : Json}
    (hn : ty.nullableInner? = some inner) (h : coerce c ty v = .ok w)
    (valid : coerce c inner v = .ok w → doc.Valid (fragment Registry.builtin c inner) w) :
    doc.Valid (fragment Registry.builtin c ty) w := by
  rw [fragment_nullable hn, Document.valid_nullable (isObject_fragment c inner)]
  rw [coerce_nullable hn] at h
  split at h
  · exact .inl (Except.ok.inj h).symm
  · exact .inr (valid h)

theorem valid_of_coerce_sum {c : Catalog} {doc : Document} {left right : Descriptor} {v w : Json}
    (hn : (sum left right).nullableInner? = none) (h : coerce c (.sum left right) v = .ok w)
    (validLeft : coerce c left v = .ok w → doc.Valid (fragment Registry.builtin c left) w)
    (validRight : coerce c right v = .ok w → doc.Valid (fragment Registry.builtin c right) w) :
    doc.Valid (fragment Registry.builtin c (.sum left right)) w := by
  rw [fragment_sum hn, Document.valid_anyOf]
  rw [coerce_sum hn] at h
  cases readLeft : coerce c left v with
  | ok u =>
      rw [readLeft] at h
      rw [Except.ok.inj h] at readLeft
      exact ⟨_, List.mem_cons_self, validLeft readLeft⟩
  | error vs =>
      rw [readLeft] at h
      cases readRight : coerce c right v with
      | ok u =>
          rw [readRight] at h
          rw [Except.ok.inj h] at readRight
          exact ⟨_, List.mem_cons_of_mem _ List.mem_cons_self, validRight readRight⟩
      | error us => rw [readRight] at h; cases h

theorem valid_of_coerce_array {c : Catalog} {doc : Document} {element : Descriptor} {v w : Json}
    (h : coerce c (.array element) v = .ok w)
    (valid : ∀ x y, sizeOf y < sizeOf w → coerce c element x = .ok y →
      doc.Valid (fragment Registry.builtin c element) y) :
    doc.Valid (fragment Registry.builtin c (.array element)) w := by
  obtain ⟨items, ws, rfl, rfl, read⟩ := coerce_array_eq_ok_iff.1 h
  rw [fragment, Document.valid_array]
  refine ⟨ws, rfl, fun y hy => ?_⟩
  obtain ⟨x, -, coerced⟩ := Checked.exists_source read hy
  exact valid x y (Json.sizeOf_item_lt hy) coerced

theorem valid_of_coerce_map {c : Catalog} {doc : Document} {key value : Descriptor} {v w : Json}
    (h : coerce c (.map key value) v = .ok w)
    (valid : ∀ x y, sizeOf y < sizeOf w → coerce c value x = .ok y →
      doc.Valid (fragment Registry.builtin c value) y) :
    doc.Valid (fragment Registry.builtin c (.map key value)) w := by
  obtain ⟨members, entries, rfl, rfl, read⟩ := coerce_map_eq_ok_iff.1 h
  rw [fragment, Document.valid_map]
  refine ⟨_, rfl, fun m hm => ?_⟩
  have listed := Entries.mem_of_mem_ofList hm
  obtain ⟨n, -, entry⟩ := Checked.exists_source read listed
  obtain ⟨k, y, -, coerced, rfl⟩ := entryResult_eq_ok_iff.1 entry
  exact valid n.2 y (Json.sizeOf_member_lt hm) coerced

theorem valid_of_coerce_of_reaches {c : Catalog} {root : Descriptor} {doc : Document}
    (publishable : root.Publishable c)
    (compiled : Document.publish Registry.builtin c root.mentions .empty = .ok doc) :
    ∀ (ty : Descriptor) (v w : Json), root.Reaches c ty → coerce c ty v = .ok w →
      doc.Valid (fragment Registry.builtin c ty) w := by
  intro ty v w reached h
  have fieldsValid {fields : List Field} (description : Option String)
      (hf : ty.fieldsOf? c = some fields) (h : coerceFields c fields v = .ok w) :
      doc.Valid (objectSchema (properties Registry.builtin c fields) (requiredNames fields)
        description) w := by
    refine valid_of_coerceFields (publishable.names ty fields reached hf) description ?_ h
    intro f hf' members y contributes smaller
    have field := reached.tail (type_mem_parts hf hf')
    cases contributes with
    | read x _ coerced => exact valid_of_coerce_of_reaches publishable compiled f.type x y field coerced
    | default _ value =>
        obtain ⟨inner, further, same⟩ := defaultValue?_eq_some Registry.builtin c f.type value
        have node := field.trans further
        rw [same]
        exact valid_of_coerce_of_reaches publishable compiled inner y y
          (node.tail (List.mem_singleton_self inner)) (publishable.defaults inner y node)
  have structValid {d : StructDef} (named : ty.structOf? c = some d)
      (h : coerceFields c d.fields v = .ok w) : doc.Valid (refTo (some d)) w := by
    obtain ⟨description, published⟩ :=
      Document.schema?_of_reaches compiled publishable.uniform reached named
    exact (Document.valid_schemaRef d.canonicalName).2
      ⟨_, published, fieldsValid description (fieldsOf?_of_structOf? named) h⟩
  match ty with
  | .leaf l =>
      rw [coerce_leaf] at h
      cases read : l.read v with
      | error message => rw [read] at h; cases h
      | ok u =>
          rw [read] at h
          obtain rfl := Except.ok.inj h
          exact Registry.valid_of_read doc (publishable.leaves l reached) read
  | .optional inner =>
      have part := reached.tail (List.mem_singleton_self inner)
      exact valid_of_coerce_nullable rfl h fun read =>
        valid_of_coerce_of_reaches publishable compiled inner v w part read
  | .withDefault inner fallback =>
      have part := reached.tail (List.mem_singleton_self inner)
      rw [coerce_withDefault] at h
      rw [fragment]
      split at h
      · have own := publishable.defaults inner fallback reached
        rw [Except.ok.inj h] at own
        exact valid_of_coerce_of_reaches publishable compiled inner w w part own
      · exact valid_of_coerce_of_reaches publishable compiled inner v w part h
  | .constrained inner con =>
      have part := reached.tail (List.mem_singleton_self inner)
      rw [coerce_constrained] at h
      rw [fragment]
      cases read : coerce c inner v with
      | error vs => rw [read] at h; cases h
      | ok u =>
          rw [read] at h
          rw [(checkConstraint_eq_ok_iff.1 h).1] at read
          exact valid_of_coerce_of_reaches publishable compiled inner v w part read
  | .sum left right =>
      cases hn : (sum left right).nullableInner? with
      | some inner =>
          have part := reached.tail (c := inner) (by rw [parts_nullable hn]; simp)
          refine valid_of_coerce_nullable hn h fun read => ?_
          have smaller := sizeOf_lt_of_nullableInner? hn
          exact valid_of_coerce_of_reaches publishable compiled inner v w part read
      | none =>
          have hparts := parts_sum (c := c) hn
          have partLeft := reached.tail (c := left) (by rw [hparts]; simp)
          have partRight := reached.tail (c := right) (by rw [hparts]; simp)
          exact valid_of_coerce_sum hn h
            (valid_of_coerce_of_reaches publishable compiled left v w partLeft)
            (valid_of_coerce_of_reaches publishable compiled right v w partRight)
  | .struct id =>
      obtain ⟨d, found, read⟩ := coerce_struct_eq_ok_iff.1 h
      rw [fragment, found]
      exact structValid found read
  | .recursive id =>
      obtain ⟨d, found, read⟩ := coerce_recursive_eq_ok_iff.1 h
      rw [fragment, found]
      exact structValid found read
  | .array element =>
      have part := reached.tail (List.mem_singleton_self element)
      exact valid_of_coerce_array h fun x y smaller read =>
        valid_of_coerce_of_reaches publishable compiled element x y part read
  | .map key value =>
      have part := reached.tail (List.mem_singleton_self value)
      exact valid_of_coerce_map h fun x y smaller read =>
        valid_of_coerce_of_reaches publishable compiled value x y part read
  | .record fields =>
      rw [coerce_record] at h
      exact fieldsValid none rfl h
termination_by ty _ w => (sizeOf w, sizeOf ty)

/-- What coercion gives at a type is valid against the fragment of the type, in the document that is
compiled from the type. -/
theorem valid_of_coerce {c : Catalog} {ty : Descriptor} (publishable : ty.Publishable c)
    {schema : Json} {doc : Document}
    (compiled : (Compiler.fragment Registry.builtin c ty).run.run .empty = (.ok schema, doc))
    {v w : Json} (h : ty.coerce c v = .ok w) : doc.Valid schema w := by
  rw [Compiler.run_fragment] at compiled
  cases published : Document.publish Registry.builtin c ty.mentions .empty with
  | error e => rw [published] at compiled; cases compiled
  | ok final =>
      rw [published] at compiled
      cases compiled
      exact valid_of_coerce_of_reaches publishable published ty v w .refl h

/-! ### A linked list -/

/-- A node of a linked list, with a weight that need not be given. -/
def listNode : StructDef where
  origin := "list::Node"
  schemaName := some "Node"
  description := none
  fields := [⟨"value", .leaf .integer, some "what it holds"⟩,
    ⟨"next", .optional (.recursive (some 0)), none⟩,
    ⟨"weight", .withDefault (.leaf .integer) (.ofInt 1), none⟩]

/-- The catalog of linked lists. -/
def listCatalog : Catalog := ⟨[listNode]⟩

theorem listNode_reaches {s : Descriptor} (h : (struct 0).Reaches listCatalog s) :
    s = .struct 0 ∨ s = .leaf .integer ∨ s = .optional (.recursive (some 0)) ∨
      s = .recursive (some 0) ∨ s = .withDefault (.leaf .integer) (.ofInt 1) := by
  have fields : ∀ part ∈ listNode.fields.map Member.type, part = .leaf .integer ∨
      part = .optional (.recursive (some 0)) ∨ part = .withDefault (.leaf .integer) (.ofInt 1) := by
    simp [listNode]
  induction h with
  | refl => exact .inl rfl
  | tail _ step ih =>
      rcases ih with rfl | rfl | rfl | rfl | rfl
      · rcases fields _ step with h | h | h <;> simp [h]
      · cases step
      · simp [List.mem_singleton.1 step]
      · rcases fields _ step with h | h | h <;> simp [h]
      · simp [List.mem_singleton.1 step]

theorem fields_of_listNode_reaches {s : Descriptor} (h : (struct 0).Reaches listCatalog s)
    {fields : List Field} (hf : s.fieldsOf? listCatalog = some fields) : fields = listNode.fields := by
  rcases listNode_reaches h with rfl | rfl | rfl | rfl | rfl
  · exact (Option.some.inj hf).symm
  · cases hf
  · cases hf
  · exact (Option.some.inj hf).symm
  · cases hf

theorem listNode_publishable : (struct 0).Publishable listCatalog where
  leaves l h := by
    rcases listNode_reaches h with h | h | h | h | h <;> cases h
    exact List.mem_cons_of_mem _ List.mem_cons_self
  names s fields h hf := by
    rw [fields_of_listNode_reaches h hf]
    decide
  defaults inner d h := by
    rcases listNode_reaches h with h | h | h | h | h <;> cases h
    rw [coerce_leaf]
    rfl
  uniform s t d e hs ht hd he _ _ := by
    have first := fields_of_listNode_reaches hs (fieldsOf?_of_structOf? hd)
    have second := fields_of_listNode_reaches ht (fieldsOf?_of_structOf? he)
    unfold StructDef.SameFields
    rw [first, second]

theorem coerce_listNode :
    (struct 0).coerce listCatalog (.obj [("next", .obj [("value", .ofInt 8)]), ("value", .ofInt 7)]) =
      .ok (.obj [("next", .obj [("value", .ofInt 8), ("weight", .ofInt 1)]), ("value", .ofInt 7),
        ("weight", .ofInt 1)]) := by
  have found : listCatalog.find? 0 = some listNode := rfl
  have back : listCatalog.resolve? (some 0) = some listNode := rfl
  have seven : Leaf.integer.read (.ofInt 7) = .ok (.ofInt 7) := rfl
  have eight : Leaf.integer.read (.ofInt 8) = .ok (.ofInt 8) := rfl
  simp [coerce_struct, found, listNode, coerceFields_obj, coerce_leaf, coerce_optional,
    coerce_recursive, back, meansNull, seven, eight]
  rfl

theorem fragment_listNode :
    (Compiler.fragment Registry.builtin listCatalog (.struct 0)).run.run .empty =
      (.ok (schemaRef "Node"), Document.empty.add "Node"
        ⟨"list::Node", listNode.schema Registry.builtin listCatalog⟩) := by
  have found : listCatalog.resolve? (some 0) = some listNode := rfl
  have name : listNode.canonicalName = "Node" := rfl
  have origin : listNode.origin = "list::Node" := rfl
  have mentioned : listNode.mentions =
      [.leaf .integer, .struct (some 0), .leaf .integer] := rfl
  have registered : Registry.builtin.contains .integer = true := rfl
  have free : Document.empty.origin? "Node" = none := rfl
  have published : Document.publish Registry.builtin listCatalog (struct 0).mentions .empty =
      .ok (Document.empty.add "Node" ⟨"list::Node", listNode.schema Registry.builtin listCatalog⟩) := by
    simp [mentions, Document.publish_struct, Document.publish_leaf, Document.publish_nil, found, name,
      origin, mentioned, registered, free, Document.origin?_add]
  rw [Compiler.run_fragment, published]
  rfl

theorem valid_of_coerce_listNode : (Document.empty.add "Node"
    ⟨"list::Node", listNode.schema Registry.builtin listCatalog⟩).Valid (schemaRef "Node")
      (.obj [("next", .obj [("value", .ofInt 8), ("weight", .ofInt 1)]), ("value", .ofInt 7),
        ("weight", .ofInt 1)]) :=
  valid_of_coerce listNode_publishable fragment_listNode coerce_listNode

end Descriptor
end ApiContract
