import ApiContract.Proofs.Schema.Publication
import Mathlib.Data.List.Nodup

/-! # When compilation succeeds, and what it gives

The compiler visits structs in an order of its own, remembers which it has seen, and stops at the first
mistake.  None of this shows in the result (`Document.compile_iff_reached`): compilation succeeds if
and only if every leaf that the roots reach is registered, no reference that they reach dangles, and no
two structs that they reach share a name without sharing the origin; and the document then holds the
schemas of the structs that are reached, each under its name, and nothing else.

Names identify schemas, so the structs must be told apart by origin and name: two definitions with the
same of both must agree in description and fields (`Document.Coherent`). -/

namespace ApiContract

/-- A reference to a struct that is gone. -/
def Descriptor.Dangles (c : Catalog) : Descriptor → Prop
  | .struct id => c.find? id = none
  | .recursive id => c.resolve? id = none
  | _ => False

namespace Document

/-- Structs that some types reach and that have one origin and one name agree in description and
fields. -/
def Coherent (c : Catalog) (roots : List Descriptor) : Prop :=
  ∀ d e, ReachedStruct c roots d → ReachedStruct c roots e → d.origin = e.origin →
    d.canonicalName = e.canonicalName → d.description = e.description ∧ d.SameFields c e

section
variable {r : Registry} {c : Catalog} {roots : List Descriptor} {doc : Document}

theorem Coherent.uniformRoots (h : Coherent c roots) : UniformRoots c roots :=
  fun s t d e hs ht hd he origin name => (h d e ⟨s, hs, hd⟩ ⟨t, ht, he⟩ origin name).2

theorem ReachedStruct.mono {others : List Descriptor} {d : StructDef}
    (sub : ∀ root ∈ others, root ∈ roots) (h : ReachedStruct c others d) : ReachedStruct c roots d := by
  obtain ⟨s, reached, named⟩ := h
  exact ⟨s, reached.mono sub, named⟩

theorem Coherent.mono {others : List Descriptor} (sub : ∀ root ∈ others, root ∈ roots)
    (h : Coherent c roots) : Coherent c others :=
  fun d e hd he => h d e (hd.mono sub) (he.mono sub)

theorem coherent_of_nodup (c : Catalog) (roots : List Descriptor)
    (h : (c.structs.map fun d => (d.origin, d.canonicalName)).Nodup) : Coherent c roots := by
  intro d e hd he origin name
  obtain rfl := List.inj_on_of_nodup_map h hd.mem_structs he.mem_structs (Prod.ext origin name)
  exact ⟨rfl, rfl⟩

theorem Coherent.schema_eq (h : Coherent c roots) {d e : StructDef} (hd : ReachedStruct c roots d)
    (he : ReachedStruct c roots e) (origin : d.origin = e.origin)
    (name : d.canonicalName = e.canonicalName) : d.schema r c = e.schema r c := by
  obtain ⟨description, same⟩ := h d e hd he origin name
  rw [StructDef.schema, StructDef.schema, description, same.properties_eq, same.requiredNames_eq]

end

/-- What compilation needs of the types that the roots reach. -/
structure Compilable (r : Registry) (c : Catalog) (roots : List Descriptor) : Prop where
  leaves : ∀ l, Descriptor.Reached c roots (.leaf l) → r.contains l = true
  present : ∀ s, Descriptor.Reached c roots s → ¬ s.Dangles c
  names : ∀ d e, ReachedStruct c roots d → ReachedStruct c roots e →
    d.canonicalName = e.canonicalName → d.origin = e.origin

section
variable {r : Registry} {c : Catalog} {roots : List Descriptor} {doc : Document}

theorem Compilable.mono {others : List Descriptor} (sub : ∀ root ∈ others, root ∈ roots)
    (h : Compilable r c roots) : Compilable r c others where
  leaves l reached := h.leaves l (reached.mono sub)
  present s reached := h.present s (reached.mono sub)
  names d e hd he := h.names d e (hd.mono sub) (he.mono sub)

/-! ### Success -/

/-- Publishing succeeds if it comes only across mentions that can be honoured, of structs that are told
apart by their names. -/
theorem publish_succeeds {pending : List Mention} {M : Mention → Prop} {R : StructDef → Prop}
    (leaves : ∀ l, M (.leaf l) → r.contains l = true)
    (structs : ∀ id, M (.struct id) → ∃ d, c.resolve? id = some d ∧ R d)
    (closed : ∀ d, R d → ∀ m ∈ d.mentions, M m)
    (names : ∀ d e, R d → R e → d.canonicalName = e.canonicalName → d.origin = e.origin)
    (start : ∀ m ∈ pending, M m)
    (taken : ∀ name origin, doc.origin? name = some origin →
      ∃ d, R d ∧ d.canonicalName = name ∧ d.origin = origin) :
    ∃ final, publish r c pending doc = .ok final := by
  fun_induction publish r c pending doc with
  | case1 doc => exact ⟨doc, rfl⟩
  | case2 doc l rest _ ih => exact ih (fun m hm => start m (List.mem_cons_of_mem _ hm)) taken
  | case3 doc l rest unknown => exact absurd (leaves l (start _ List.mem_cons_self)) unknown
  | case4 doc id rest absent =>
      obtain ⟨d, found, -⟩ := structs id (start _ List.mem_cons_self)
      rw [absent] at found
      cases found
  | case5 doc id rest d _ _ ih => exact ih (fun m hm => start m (List.mem_cons_of_mem _ hm)) taken
  | case6 doc id rest d found origin held different =>
      obtain ⟨d', found', reached⟩ := structs id (start _ List.mem_cons_self)
      obtain rfl := Option.some.inj (found.symm.trans found')
      obtain ⟨e, reached', name, rfl⟩ := taken _ _ held
      exact absurd (names e d reached' reached name) different
  | case7 doc id rest d found free ih =>
      obtain ⟨d', found', reached⟩ := structs id (start _ List.mem_cons_self)
      obtain rfl := Option.some.inj (found.symm.trans found')
      refine ih ?_ ?_
      · intro m hm
        rcases List.mem_append.1 hm with hm | hm
        · exact closed d reached m hm
        · exact start m (List.mem_cons_of_mem _ hm)
      · intro name origin held
        rw [origin?_add] at held
        split at held
        · next same => exact ⟨d, reached, same.symm, Option.some.inj held⟩
        · exact taken name origin held

theorem compile_succeeds (h : Compilable r c roots) : ∃ doc, compile r c roots = .ok doc := by
  rw [compile_eq_publish]
  refine publish_succeeds (M := fun m => ∃ s, Descriptor.Reached c roots s ∧ s.mention? = some m)
    (R := ReachedStruct c roots) ?_ ?_ ?_ h.names ?_ (fun name origin held => by cases held)
  · rintro l ⟨s, reached, named⟩
    exact h.leaves l (Descriptor.mention?_eq_leaf named ▸ reached)
  · rintro id ⟨s, reached, named⟩
    have same := Descriptor.structOf?_of_mention? (c := c) named
    cases found : c.resolve? id with
    | some d => exact ⟨d, rfl, s, reached, same.trans found⟩
    | none =>
        refine absurd ?_ (h.present s reached)
        cases s with
        | struct | recursive => cases named; exact found
        | _ => cases named
  · intro d reached m hm
    obtain ⟨s, reached, mentioned⟩ := reached.exists_of_mem_mentions hm
    exact Descriptor.exists_reached_of_mem_mentions reached mentioned
  · intro m hm
    obtain ⟨root, mem, mentioned⟩ := List.mem_flatMap.1 hm
    exact Descriptor.exists_reached_of_mem_mentions ⟨root, mem, .refl⟩ mentioned

/-! ### What success shows -/

theorem contains_of_compile (h : compile r c roots = .ok doc) (coherent : Coherent c roots) {l : Leaf}
    (reached : Descriptor.Reached c roots (.leaf l)) : r.contains l = true := by
  rw [compile_eq_publish] at h
  exact honours_of_reached h coherent.uniformRoots reached (.leaf l) (List.mem_singleton_self _)

theorem not_dangles_of_compile (h : compile r c roots = .ok doc) (coherent : Coherent c roots)
    {s : Descriptor} (reached : Descriptor.Reached c roots s) : ¬ s.Dangles c := by
  rw [compile_eq_publish] at h
  have honoured := honours_of_reached h coherent.uniformRoots reached
  cases s with
  | struct id =>
      obtain ⟨d, found, -⟩ := honoured (.struct (some id)) (List.mem_singleton_self _)
      exact fun gone => by rw [show c.resolve? (some id) = none from gone] at found; cases found
  | recursive id =>
      obtain ⟨d, found, -⟩ := honoured (.struct id) (List.mem_singleton_self _)
      exact fun gone => by rw [show c.resolve? id = none from gone] at found; cases found
  | _ => exact id

theorem get?_published_of_compile (h : compile r c roots = .ok doc) (coherent : Coherent c roots)
    {name : String} {p : Published} : doc.published.get? name = some p ↔
      ∃ d, ReachedStruct c roots d ∧ d.canonicalName = name ∧ p = ⟨d.origin, d.schema r c⟩ := by
  rw [compile_eq_publish] at h
  constructor
  · intro held
    obtain ⟨d, described⟩ := describes_of_compiled h held
    exact ⟨d, described.holds, described.name_eq, described.entry_eq⟩
  · rintro ⟨d, ⟨s, reached, named⟩, rfl, rfl⟩
    obtain ⟨e, -, p, held, described, own⟩ :=
      describes_of_reached h coherent.uniformRoots reached named
    have origin : d.origin = e.origin := by rw [← own, described.entry_eq]
    rw [held, described.entry_eq, ← origin,
      coherent.schema_eq ⟨s, reached, named⟩ described.holds origin described.name_eq.symm]

theorem paired_of_compile (h : compile r c roots = .ok doc) : doc.Paired := by
  rw [compile_eq_publish] at h
  exact publish_paired h paired_empty

theorem mem_names_of_compile (h : compile r c roots = .ok doc) (coherent : Coherent c roots)
    (name : String) : name ∈ doc.names ↔ ∃ d, ReachedStruct c roots d ∧ d.canonicalName = name := by
  rw [names, Dict.mem_keys_iff]
  show (doc.schema? name).isSome = true ↔ _
  rw [paired_of_compile h name, Option.isSome_iff_exists]
  constructor
  · rintro ⟨origin, taken⟩
    obtain ⟨p, held, -⟩ := (paired_of_compile h).get?_of_origin? taken
    obtain ⟨d, reached, same, -⟩ := (get?_published_of_compile h coherent).1 held
    exact ⟨d, reached, same⟩
  · rintro ⟨d, reached, rfl⟩
    have held := (get?_published_of_compile h coherent).2 ⟨d, reached, rfl, rfl⟩
    exact ⟨d.origin, (get?_published_eq_some_iff.1 held).1⟩

/-! ### The characterisation -/

theorem compilable_of_compile (h : compile r c roots = .ok doc) (coherent : Coherent c roots) :
    Compilable r c roots where
  leaves l reached := contains_of_compile h coherent reached
  present s reached := not_dangles_of_compile h coherent reached
  names d e hd he same := by
    have first := (get?_published_of_compile h coherent).2 ⟨d, hd, rfl, rfl⟩
    have second := (get?_published_of_compile h coherent).2 ⟨e, he, rfl, rfl⟩
    rw [← same, first] at second
    exact congrArg Published.origin (Option.some.inj second)

/-- Some of the types that are compiled together can be compiled without the others. -/
theorem exists_compile_of_subset {others : List Descriptor} (sub : ∀ root ∈ others, root ∈ roots)
    (coherent : Coherent c roots) (h : compile r c roots = .ok doc) :
    ∃ other, compile r c others = .ok other :=
  compile_succeeds ((compilable_of_compile h coherent).mono sub)

theorem compile_congr {others : List Descriptor} (same : ∀ ty, ty ∈ others ↔ ty ∈ roots)
    (coherent : Coherent c roots) (h : compile r c roots = .ok doc) : compile r c others = .ok doc := by
  have sub : ∀ root ∈ others, root ∈ roots := fun root => (same root).1
  have structs (d : StructDef) : ReachedStruct c others d ↔ ReachedStruct c roots d :=
    ⟨.mono sub, .mono fun root => (same root).2⟩
  obtain ⟨other, h'⟩ := exists_compile_of_subset sub coherent h
  rw [h', (paired_of_compile h').ext (paired_of_compile h) fun name => ?_]
  refine Option.ext fun p => ?_
  simp only [get?_published_of_compile h' (coherent.mono sub), get?_published_of_compile h coherent,
    structs]

/-- Compilation succeeds if and only if all that the roots reach is registered, present and named without
clashes.  The document then has one entry for each name that is reached, with the origin and the schema
of the struct of this name, and any list of the same roots gives the same document. -/
theorem compile_iff_reached (coherent : Coherent c roots) :
    ((∃ doc, compile r c roots = .ok doc) ↔
      (∀ l, Descriptor.Reached c roots (.leaf l) → r.contains l = true) ∧
      (∀ s, Descriptor.Reached c roots s → ¬ s.Dangles c) ∧
      ∀ d e, ReachedStruct c roots d → ReachedStruct c roots e →
        d.canonicalName = e.canonicalName → d.origin = e.origin) ∧
    ∀ doc, compile r c roots = .ok doc →
      doc.names.Nodup ∧ doc.origins.keys = doc.names ∧
      (∀ name, name ∈ doc.names ↔ ∃ d, ReachedStruct c roots d ∧ d.canonicalName = name) ∧
      (∀ d, ReachedStruct c roots d → doc.origin? d.canonicalName = some d.origin ∧
        doc.schema? d.canonicalName = some (d.schema r c)) ∧
      ∀ others, (∀ ty, ty ∈ others ↔ ty ∈ roots) → compile r c others = .ok doc := by
  refine ⟨⟨?_, ?_⟩, ?_⟩
  · rintro ⟨doc, h⟩
    have compilable := compilable_of_compile h coherent
    exact ⟨compilable.leaves, compilable.present, compilable.names⟩
  · rintro ⟨leaves, present, names⟩
    exact compile_succeeds ⟨leaves, present, names⟩
  · intro doc h
    have paired := paired_of_compile h
    have keys : doc.origins.keys = doc.names := Dict.keys_eq_of_isSome_eq fun name => (paired name).symm
    refine ⟨doc.schemas.nodup_keys, keys, mem_names_of_compile h coherent, ?_, ?_⟩
    · intro d reached
      have held := (get?_published_of_compile h coherent).2 ⟨d, reached, rfl, rfl⟩
      exact get?_published_eq_some_iff.1 held
    · exact fun others same => compile_congr same coherent h

end

/-! ### Pets and their owners -/

/-- A pet, which may have an owner. -/
def pet : StructDef where
  origin := "shelter::Pet"
  schemaName := some "Pet"
  description := none
  fields := [⟨"name", .leaf .string, none⟩, ⟨"owner", .optional (.recursive (some 1)), none⟩]

/-- An owner with pets, and with visits by a code that is no leaf of the registry. -/
def owner : StructDef where
  origin := "shelter::Owner"
  schemaName := some "Owner"
  description := some "keeps pets"
  fields := [⟨"pets", .array (.struct 0), none⟩,
    ⟨"visits", .map (.leaf ⟨"code", .ok⟩) (.leaf .integer), none⟩]

/-- The catalog of pets and owners, which lead to each other. -/
def shelter : Catalog := ⟨[pet, owner]⟩

/-- The roots of the example, of which one is listed twice. -/
def shelterRoots : List Descriptor := [.struct 0, .array (.recursive (some 1)), .struct 0]

/-- All that the roots reach. -/
def shelterTypes : List Descriptor :=
  [.struct 0, .array (.recursive (some 1)), .recursive (some 1), .leaf .string,
    .optional (.recursive (some 1)), .array (.struct 0),
    .map (.leaf ⟨"code", .ok⟩) (.leaf .integer), .leaf .integer]

theorem mem_shelterTypes {s : Descriptor} (h : Descriptor.Reached shelter shelterRoots s) :
    s ∈ shelterTypes := by
  have ofPet : (Descriptor.struct 0).fieldsOf? shelter = some pet.fields := rfl
  have ofOwner : (Descriptor.recursive (some 1)).fieldsOf? shelter = some owner.fields := rfl
  have closed : ∀ t ∈ shelterTypes, t.parts shelter ⊆ shelterTypes := by
    simp [shelterTypes, ofPet, ofOwner, pet, owner, Descriptor.parts]
  refine h.induction (P := (· ∈ shelterTypes)) ?_ fun t part ht hp => closed t ht hp
  simp [shelterRoots, shelterTypes]

theorem shelter_coherent (roots : List Descriptor) : Coherent shelter roots :=
  coherent_of_nodup shelter roots (by decide)

/-- Pets and owners are compiled, although they lead to each other and the code of a visit is not
registered, and the order of the roots makes no difference. -/
theorem compile_shelter : ∃ doc, compile Registry.builtin shelter shelterRoots = .ok doc ∧
    doc.origin? "Pet" = some "shelter::Pet" ∧
    doc.schema? "Owner" = some (owner.schema Registry.builtin shelter) ∧
    compile Registry.builtin shelter [.array (.recursive (some 1)), .struct 0] = .ok doc := by
  obtain ⟨succeeds, shows⟩ :=
    compile_iff_reached (r := Registry.builtin) (shelter_coherent shelterRoots)
  obtain ⟨doc, h⟩ := succeeds.2 (by
    refine ⟨fun l hl => ?_, fun s hs => ?_, fun d e hd he name => ?_⟩
    · have known := mem_shelterTypes hl
      simp only [shelterTypes, List.mem_cons, List.not_mem_nil, reduceCtorEq, Descriptor.leaf.injEq,
        false_or, or_false] at known
      rcases known with rfl | rfl <;> rfl
    · have known := mem_shelterTypes hs
      simp only [shelterTypes, List.mem_cons, List.not_mem_nil, or_false] at known
      rcases known with rfl | rfl | rfl | rfl | rfl | rfl | rfl | rfl <;> intro gone <;> cases gone
    · have first := hd.mem_structs
      have second := he.mem_structs
      simp only [shelter, List.mem_cons, List.not_mem_nil, or_false] at first second
      rcases first with rfl | rfl <;> rcases second with rfl | rfl
      · rfl
      · exact absurd name (by decide)
      · exact absurd name (by decide)
      · rfl)
  obtain ⟨-, -, -, entries, order⟩ := shows doc h
  refine ⟨doc, h, ?_, ?_, order _ ?_⟩
  · exact (entries pet ⟨.struct 0, ⟨_, List.mem_cons_self, .refl⟩, rfl⟩).1
  · have reached : Descriptor.Reached shelter shelterRoots (.recursive (some 1)) :=
      ⟨.array (.recursive (some 1)), by simp [shelterRoots], .single (List.mem_singleton_self _)⟩
    exact (entries owner ⟨_, reached, rfl⟩).2
  · simp [shelterRoots, or_comm]

end Document
end ApiContract
