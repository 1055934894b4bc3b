import ApiContract.Proofs.Reach
import ApiContract.Proofs.Schema.Canonical
import ApiContract.Proofs.Schema.Worklist

/-! # What a document publishes

A document honours a mention if it can be relied on: the leaf is registered, or the struct is there
and its name is taken by its own origin (`Document.Honours`).

Publishing keeps what is published (`publish_keeps`) and honours all that it was given
(`publish_honours`).  What it adds are schemas of structs that the given mentions lead to, and what
these structs mention is honoured too (`publish_entries`).  So a document that is compiled from some
types honours the mentions of everything that they reach (`honours_of_reached`), as long as structs of
one origin and one name have the same fields, and has under the name of each struct that is reached a
schema with the fields of this very struct (`describes_of_reached`). -/

namespace ApiContract
namespace Document

/-- A mention that can be relied on. -/
def Honours (r : Registry) (c : Catalog) (doc : Document) : Mention → Prop
  | .leaf l => r.contains l = true
  | .struct id => ∃ d, c.resolve? id = some d ∧ doc.origin? d.canonicalName = some d.origin

/-- The names of the schemas are those of the origins. -/
def Paired (doc : Document) : Prop :=
  ∀ name, (doc.schema? name).isSome = (doc.origin? name).isSome

section publish
variable {r : Registry} {c : Catalog} {pending : List Mention} {doc final : Document}

theorem get?_published_eq_some_iff {name : String} {p : Published} :
    doc.published.get? name = some p ↔
      doc.origin? name = some p.origin ∧ doc.schema? name = some p.schema := by
  rw [get?_published]
  cases doc.schema? name <;> cases doc.origin? name <;> cases p <;> simp [and_comm]

theorem get?_published_empty (name : String) : empty.published.get? name = none := rfl

theorem get?_published_add (name key : String) (p : Published) :
    (doc.add name p).published.get? key = if key = name then some p else doc.published.get? key := by
  rw [get?_published, get?_published, schema?_add, origin?_add]
  split <;> rfl

theorem paired_empty : Paired empty := fun _ => rfl

theorem Paired.add (h : doc.Paired) (name : String) (p : Published) : (doc.add name p).Paired := by
  intro key
  rw [schema?_add, origin?_add]
  split
  · rfl
  · exact h key

theorem Paired.schema?_eq (h : doc.Paired) (name : String) :
    doc.schema? name = (doc.published.get? name).map Published.schema := by
  have known := h name
  rw [get?_published]
  revert known
  cases doc.schema? name <;> cases doc.origin? name <;> simp

theorem Paired.origin?_eq (h : doc.Paired) (name : String) :
    doc.origin? name = (doc.published.get? name).map Published.origin := by
  have known := h name
  rw [get?_published]
  revert known
  cases doc.schema? name <;> cases doc.origin? name <;> simp

theorem Paired.get?_of_origin? (h : doc.Paired) {name origin : String}
    (taken : doc.origin? name = some origin) :
    ∃ p, doc.published.get? name = some p ∧ p.origin = origin := by
  rw [h.origin?_eq] at taken
  exact Option.map_eq_some_iff.1 taken

theorem ext_get? {doc other : Document} (schemas : ∀ name, doc.schema? name = other.schema? name)
    (origins : ∀ name, doc.origin? name = other.origin? name) : doc = other := by
  cases doc; cases other
  rw [mk.injEq]
  exact ⟨Dict.ext_get? schemas, Dict.ext_get? origins⟩

theorem Paired.ext {doc other : Document} (hd : doc.Paired) (ho : other.Paired)
    (h : ∀ name, doc.published.get? name = other.published.get? name) : doc = other :=
  ext_get? (fun name => by rw [hd.schema?_eq, ho.schema?_eq, h])
    (fun name => by rw [hd.origin?_eq, ho.origin?_eq, h])

/-! ### The walk over mentions -/

/-- A free name gets an entry; the entries of other names stay. -/
theorem get?_add_of_get? {name key : String} {p q : Published} (free : doc.origin? name = none)
    (h : doc.published.get? key = some p) : (doc.add name q).published.get? key = some p := by
  have other : key ≠ name := by
    rintro rfl
    rw [(get?_published_eq_some_iff.1 h).1] at free
    cases free
  rw [get?_published_add, if_neg other, h]

theorem publish_keeps (h : publish r c pending doc = .ok final) {name : String} {p : Published}
    (held : doc.published.get? name = some p) : final.published.get? name = some p := by
  fun_induction publish r c pending doc with
  | case1 doc => cases h; exact held
  | case2 doc l rest _ ih => exact ih h held
  | case3 => cases h
  | case4 => cases h
  | case5 doc id rest d _ taken ih => exact ih h held
  | case6 => cases h
  | case7 doc id rest d _ free ih => exact ih h (get?_add_of_get? free held)

theorem publish_keeps_origin (h : publish r c pending doc = .ok final) {name origin : String}
    (taken : doc.origin? name = some origin) : final.origin? name = some origin := by
  fun_induction publish r c pending doc with
  | case1 doc => cases h; exact taken
  | case2 doc l rest _ ih => exact ih h taken
  | case3 => cases h
  | case4 => cases h
  | case5 doc id rest d _ _ ih => exact ih h taken
  | case6 => cases h
  | case7 doc id rest d _ free ih =>
      refine ih h ?_
      have other : name ≠ d.canonicalName := by
        rintro rfl
        rw [taken] at free
        cases free
      rw [origin?_add, if_neg other, taken]

/-- Every schema was there before or is that of a struct of the catalog, under its name and origin. -/
theorem exists_struct_of_publish (h : publish r c pending doc = .ok final) {name : String} {schema : Json}
    (held : final.schema? name = some schema) : doc.schema? name = some schema ∨
      ∃ d ∈ c.structs, d.canonicalName = name ∧ final.origin? name = some d.origin ∧
        schema = d.schema r c := by
  fun_induction publish r c pending doc with
  | case1 doc => cases h; exact .inl held
  | case2 doc l rest _ ih => exact ih h
  | case3 => cases h
  | case4 => cases h
  | case5 doc id rest d _ taken ih => exact ih h
  | case6 => cases h
  | case7 doc id rest d found free ih =>
      rcases ih h with before | new
      · rw [schema?_add] at before
        split at before
        · next same =>
          have taken : final.origin? name = some d.origin := by
            refine publish_keeps_origin h ?_
            rw [origin?_add, if_pos same]
          exact .inr ⟨d, Catalog.mem_of_resolve? found, same.symm, taken, (Option.some.inj before).symm⟩
        · exact .inl before
      · exact .inr new

theorem publish_paired (h : publish r c pending doc = .ok final) (paired : doc.Paired) :
    final.Paired := by
  fun_induction publish r c pending doc with
  | case1 doc => cases h; exact paired
  | case2 doc l rest _ ih => exact ih h paired
  | case3 => cases h
  | case4 => cases h
  | case5 doc id rest d _ _ ih => exact ih h paired
  | case6 => cases h
  | case7 doc id rest d _ free ih => exact ih h (paired.add _ _)

theorem publish_honours (h : publish r c pending doc = .ok final) :
    ∀ m ∈ pending, Honours r c final m := by
  fun_induction publish r c pending doc with
  | case1 doc => intro m hm; cases hm
  | case2 doc l rest registered ih =>
      intro m hm
      rcases List.mem_cons.1 hm with rfl | hm
      · exact registered
      · exact ih h m hm
  | case3 => cases h
  | case4 => cases h
  | case5 doc id rest d found taken ih =>
      intro m hm
      rcases List.mem_cons.1 hm with rfl | hm
      · exact ⟨d, found, publish_keeps_origin h taken⟩
      · exact ih h m hm
  | case6 => cases h
  | case7 doc id rest d found free ih =>
      intro m hm
      rcases List.mem_cons.1 hm with rfl | hm
      · refine ⟨d, found, publish_keeps_origin h ?_⟩
        rw [origin?_add, if_pos rfl]
      · exact ih h m (List.mem_append_right _ hm)

/-- Publishing what is honoured already changes nothing. -/
theorem publish_of_honours {ms : List Mention} (h : ∀ m ∈ ms, Honours r c doc m) :
    publish r c ms doc = .ok doc := by
  induction ms with
  | nil => exact publish_nil r c doc
  | cons m ms ih =>
      have rest := ih fun n hn => h n (List.mem_cons_of_mem _ hn)
      have own := h m List.mem_cons_self
      cases m with
      | leaf l =>
          have registered : r.contains l = true := own
          rw [publish_leaf, if_pos registered, rest]
      | struct id =>
          obtain ⟨d, found, taken⟩ := own
          rw [publish_struct, found]
          simp only [taken, if_true, rest]

/-- An entry for a struct with a given property, all of whose mentions are honoured. -/
structure Describes (r : Registry) (c : Catalog) (final : Document) (R : StructDef → Prop)
    (name : String) (p : Published) (d : StructDef) : Prop where
  holds : R d
  name_eq : d.canonicalName = name
  entry_eq : p = ⟨d.origin, d.schema r c⟩
  honours : ∀ m ∈ d.mentions, Honours r c final m

/-- Every entry was there before or describes a struct that the given mentions lead to: one with any
property that passes from mentions to structs and from structs to mentions. -/
theorem publish_entries (R : StructDef → Prop)
    (closed : ∀ d, R d → ∀ id e, .struct id ∈ d.mentions → c.resolve? id = some e → R e)
    (start : ∀ id e, .struct id ∈ pending → c.resolve? id = some e → R e)
    (h : publish r c pending doc = .ok final) {name : String} {p : Published}
    (held : final.published.get? name = some p) :
    doc.published.get? name = some p ∨ ∃ d, Describes r c final R name p d := by
  fun_induction publish r c pending doc with
  | case1 doc => cases h; exact .inl held
  | case2 doc l rest _ ih => exact ih (fun id e hm => start id e (List.mem_cons_of_mem _ hm)) h
  | case3 => cases h
  | case4 => cases h
  | case5 doc id rest d _ taken ih =>
      exact ih (fun id e hm => start id e (List.mem_cons_of_mem _ hm)) h
  | case6 => cases h
  | case7 doc id rest d found free ih =>
      have holds := start id d List.mem_cons_self found
      have honoured := publish_honours h
      have rest := ih (fun i e hm => by
        rcases List.mem_append.1 hm with hm | hm
        · exact closed d holds i e hm
        · exact start i e (List.mem_cons_of_mem _ hm)) h
      rcases rest with before | new
      · rw [get?_published_add] at before
        split at before
        · next same =>
          refine .inr ⟨d, holds, same.symm, (Option.some.inj before).symm, fun m hm => ?_⟩
          exact honoured m (List.mem_append_left _ hm)
        · exact .inl before
      · exact .inr new

/-- A mention is honoured no matter which of like structs it names. -/
theorem honours_canonical {m : Mention} : Honours r c doc (m.canonical c) ↔ Honours r c doc m := by
  cases m with
  | leaf l => exact Iff.rfl
  | struct id =>
      cases h : c.resolve? id with
      | none => rw [Mention.canonical, h]; exact Iff.rfl
      | some d =>
          obtain ⟨e, found, origin, name⟩ := Catalog.find?_place (Catalog.mem_of_resolve? h)
          have first : c.resolve? (some (c.place d)) = some e := found
          rw [Mention.canonical, h]
          simp [Honours, h, first, origin, name]

end publish

/-! ### The document of some types -/

/-- Structs that a type reaches and that have one origin and one name have the same fields. -/
def Uniform (c : Catalog) (ty : Descriptor) : Prop :=
  ∀ s t d e, ty.Reaches c s → ty.Reaches c t → s.structOf? c = some d → t.structOf? c = some e →
    d.origin = e.origin → d.canonicalName = e.canonicalName → d.SameFields c e

/-- `Uniform` for all that some types reach. -/
def UniformRoots (c : Catalog) (roots : List Descriptor) : Prop :=
  ∀ s t d e, Descriptor.Reached c roots s → Descriptor.Reached c roots t → s.structOf? c = some d →
    t.structOf? c = some e → d.origin = e.origin → d.canonicalName = e.canonicalName →
    d.SameFields c e

theorem uniformRoots_singleton {c : Catalog} {ty : Descriptor} :
    UniformRoots c [ty] ↔ Uniform c ty := by
  simp only [UniformRoots, Uniform, Descriptor.reached_singleton]

/-- A struct that is named by a type that some types reach. -/
def ReachedStruct (c : Catalog) (roots : List Descriptor) (d : StructDef) : Prop :=
  ∃ s, Descriptor.Reached c roots s ∧ s.structOf? c = some d

theorem reachedStruct_of_mem_mentions {c : Catalog} {roots : List Descriptor} {id : Option StructId}
    {s : Descriptor} {d : StructDef} (reached : Descriptor.Reached c roots s)
    (mentioned : .struct id ∈ s.mentions) (found : c.resolve? id = some d) :
    ReachedStruct c roots d := by
  obtain ⟨t, reached, named⟩ := Descriptor.exists_reached_of_mem_mentions reached mentioned
  exact ⟨t, reached, (Descriptor.structOf?_of_mention? named).trans found⟩

theorem ReachedStruct.exists_of_mem_mentions {c : Catalog} {roots : List Descriptor} {m : Mention}
    {d : StructDef} (reached : ReachedStruct c roots d) (mentioned : m ∈ d.mentions) :
    ∃ s, Descriptor.Reached c roots s ∧ m ∈ s.mentions := by
  obtain ⟨s, reached, named⟩ := reached
  rw [StructDef.mentions, Descriptor.fieldMentions_eq_flatMap] at mentioned
  obtain ⟨f, hf, mentioned⟩ := List.mem_flatMap.1 mentioned
  have field := Descriptor.type_mem_parts (Descriptor.fieldsOf?_of_structOf? named) hf
  exact ⟨f.type, reached.part field, mentioned⟩

theorem struct_mem_mentions {c : Catalog} {s : Descriptor} {d : StructDef}
    (named : s.structOf? c = some d) : ∃ id, .struct id ∈ s.mentions ∧ c.resolve? id = some d := by
  cases s with
  | struct id => exact ⟨some id, List.mem_singleton_self _, named⟩
  | recursive id => exact ⟨id, List.mem_singleton_self _, named⟩
  | _ => cases named

theorem ReachedStruct.mem_structs {c : Catalog} {roots : List Descriptor} {d : StructDef}
    (h : ReachedStruct c roots d) : d ∈ c.structs := by
  obtain ⟨s, -, named⟩ := h
  obtain ⟨id, -, found⟩ := struct_mem_mentions named
  exact Catalog.mem_of_resolve? found

section compiled
variable {r : Registry} {c : Catalog} {roots : List Descriptor} {s : Descriptor} {doc : Document}

theorem describes_of_compiled (h : publish r c (roots.flatMap Descriptor.mentions) empty = .ok doc)
    {name : String} {p : Published} (held : doc.published.get? name = some p) :
    ∃ d, Describes r c doc (ReachedStruct c roots) name p d := by
  have before := publish_entries (ReachedStruct c roots) ?_ ?_ h held
  · rcases before with before | described
    · rw [get?_published_empty] at before
      cases before
    · exact described
  · intro d reached id e mentioned found
    obtain ⟨s, reached, mentioned⟩ := reached.exists_of_mem_mentions mentioned
    exact reachedStruct_of_mem_mentions reached mentioned found
  · intro id e mentioned found
    obtain ⟨root, mem, mentioned⟩ := List.mem_flatMap.1 mentioned
    exact reachedStruct_of_mem_mentions ⟨root, mem, .refl⟩ mentioned found

theorem exists_struct_of_schema? (h : publish r c (roots.flatMap Descriptor.mentions) empty = .ok doc)
    {name : String} {schema : Json} (held : doc.schema? name = some schema) :
    ∃ d, ReachedStruct c roots d ∧ d.canonicalName = name ∧ schema = d.schema r c := by
  rw [(publish_paired h paired_empty).schema?_eq] at held
  obtain ⟨p, entry, rfl⟩ := Option.map_eq_some_iff.1 held
  obtain ⟨d, described⟩ := describes_of_compiled h entry
  exact ⟨d, described.holds, described.name_eq, congrArg Published.schema described.entry_eq⟩

/-- The entry of a struct whose mention is honoured describes a struct with the same fields. -/
theorem describes_of_honours (h : publish r c (roots.flatMap Descriptor.mentions) empty = .ok doc)
    (uniform : UniformRoots c roots) (reached : Descriptor.Reached c roots s) {d : StructDef}
    (named : s.structOf? c = some d) (honours : ∀ m ∈ s.mentions, Honours r c doc m) :
    ∃ e, d.SameFields c e ∧ ∃ p, doc.published.get? d.canonicalName = some p ∧
      Describes r c doc (ReachedStruct c roots) d.canonicalName p e ∧ p.origin = d.origin := by
  obtain ⟨id, mentioned, found⟩ := struct_mem_mentions named
  obtain ⟨d', found', taken⟩ := honours _ mentioned
  obtain rfl := Option.some.inj (found.symm.trans found')
  obtain ⟨p, held, own⟩ := (publish_paired h paired_empty).get?_of_origin? taken
  obtain ⟨e, described⟩ := describes_of_compiled h held
  obtain ⟨t, reached', named'⟩ := described.holds
  have origin : d.origin = e.origin := by rw [← own, described.entry_eq]
  exact ⟨e, uniform s t d e reached reached' named named' origin described.name_eq.symm,
    p, held, described, own⟩

theorem honours_of_reached (h : publish r c (roots.flatMap Descriptor.mentions) empty = .ok doc)
    (uniform : UniformRoots c roots) (reached : Descriptor.Reached c roots s) :
    ∀ m ∈ s.mentions, Honours r c doc m := by
  obtain ⟨root, mem, reaches⟩ := reached
  induction reaches with
  | refl =>
      intro m hm
      exact publish_honours h m (List.mem_flatMap.2 ⟨root, mem, hm⟩)
  | @tail s part reaches step ih =>
      cases named : s.structOf? c with
      | none =>
          intro m hm
          exact ih m (Descriptor.mentions_subset_of_mem_parts named step hm)
      | some d =>
          obtain ⟨e, same, p, -, described, -⟩ :=
            describes_of_honours h uniform ⟨root, mem, reaches⟩ named ih
          have fields : ∀ m ∈ d.mentions, Honours r c doc m := by
            intro m hm
            have placed : m.canonical c ∈ e.mentions.map (Mention.canonical c) := by
              rw [← same.mentions_eq]
              exact List.mem_map_of_mem hm
            obtain ⟨m', hm', like⟩ := List.mem_map.1 placed
            rw [← honours_canonical, ← like, honours_canonical]
            exact described.honours m' hm'
          rw [Descriptor.parts_of_fieldsOf? (Descriptor.fieldsOf?_of_structOf? named)] at step
          obtain ⟨f, hf, rfl⟩ := List.mem_map.1 step
          intro m hm
          refine fields m ?_
          rw [StructDef.mentions, Descriptor.fieldMentions_eq_flatMap]
          exact List.mem_flatMap.2 ⟨f, hf, hm⟩

theorem describes_of_reached (h : publish r c (roots.flatMap Descriptor.mentions) empty = .ok doc)
    (uniform : UniformRoots c roots) (reached : Descriptor.Reached c roots s) {d : StructDef}
    (named : s.structOf? c = some d) :
    ∃ e, d.SameFields c e ∧ ∃ p, doc.published.get? d.canonicalName = some p ∧
      Describes r c doc (ReachedStruct c roots) d.canonicalName p e ∧ p.origin = d.origin :=
  describes_of_honours h uniform reached named (honours_of_reached h uniform reached)

/-- Under the name of a struct that is reached stands a schema with the fields of this struct. -/
theorem schema?_of_reaches {ty : Descriptor} (h : publish r c ty.mentions empty = .ok doc)
    (uniform : Uniform c ty) (reached : ty.Reaches c s) {d : StructDef}
    (named : s.structOf? c = some d) :
    ∃ description, doc.schema? d.canonicalName = some (objectSchema (Descriptor.properties r c d.fields)
      (Descriptor.requiredNames d.fields) description) := by
  rw [← List.flatMap_singleton Descriptor.mentions ty] at h
  obtain ⟨e, same, p, held, described, -⟩ := describes_of_reached h (uniformRoots_singleton.2 uniform)
    (Descriptor.reached_singleton.2 reached) named
  refine ⟨e.description, ?_⟩
  rw [(get?_published_eq_some_iff.1 held).2, described.entry_eq, StructDef.schema, same.properties_eq,
    same.requiredNames_eq]

end compiled
end Document
end ApiContract
