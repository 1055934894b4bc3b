import ApiContract.Proofs.Pointer
import ApiContract.Proofs.Registry
import ApiContract.Proofs.Schema.Acceptance

/-! # What is set in a fragment stays in it

`nullable` and the description of a field are set in fragments that have been written already, and setting
a key does nothing to a value that is not an object.  As all fragments are objects, nothing is lost
(`Registry.Assembled.isObject_fragment`).

`Descriptor.Site` says where a fragment shows a type, as the tokens that lead there.  What stands there is
the fragment of this type, in which wrappers and fields around it may have set the two keys and nothing
else (`Json.Annotated`).  So every nullable type is marked at all its places and every property has the
description of its field (`Descriptor.Presents`), in the answers of a compiler and in the schemas that it
publishes (`Compiler.annotations_kept`). -/

namespace ApiContract

/-! ### Setting the two keys -/

/-- A value in which `nullable` and a description may have been set, any number of times. -/
inductive Json.Annotated (bare : Json) : Json → Prop
  | refl : Annotated bare bare
  | nullable {v : Json} (h : Annotated bare v) : Annotated bare (Descriptor.nullable v)
  | describe {v : Json} (description : Option String) (h : Annotated bare v) :
    Annotated bare (Descriptor.describe description v)

namespace Json

variable {bare v w : Json}

theorem Annotated.trans (first : Annotated bare v) (second : Annotated v w) : Annotated bare w := by
  induction second with
  | refl => exact first
  | nullable _ ih => exact ih.nullable
  | describe description _ ih => exact ih.describe description

theorem Annotated.isObject (h : Annotated bare v) (object : bare.isObject = true) :
    v.isObject = true := by
  induction h with
  | refl => exact object
  | nullable _ ih => rw [Descriptor.nullable, isObject_set, ih]
  | describe description _ ih => rw [isObject_describe, ih]

theorem Annotated.get?_eq (h : Annotated bare v) (object : bare.isObject = true) {key : String}
    (unmarked : key ≠ "nullable") (undescribed : key ≠ "description") : v.get? key = bare.get? key := by
  induction h with
  | refl => rfl
  | nullable h ih => rw [Descriptor.nullable, get?_set (h.isObject object), if_neg unmarked, ih]
  | describe description h ih =>
      cases description with
      | none => exact ih
      | some text => rw [Descriptor.describe, get?_set (h.isObject object), if_neg undescribed, ih]

/-- What has been marked stays marked. -/
theorem Annotated.get?_nullable (h : Annotated bare v) (object : bare.isObject = true)
    (marked : bare.get? "nullable" = some (.bool true)) : v.get? "nullable" = some (.bool true) := by
  induction h with
  | refl => exact marked
  | nullable h ih => rw [Descriptor.nullable, get?_set (h.isObject object), if_pos rfl]
  | describe description h ih =>
      cases description with
      | none => exact ih
      | some text =>
          have other : "nullable" ≠ "description" := by decide
          rw [Descriptor.describe, get?_set (h.isObject object), if_neg other, ih]

end Json

namespace Descriptor

/-! ### The places of a type -/

/-- Where the fragment of a type shows a type inside it, as the tokens that lead there.  Wrappers stand in
one place with what they wrap; fields are found by their names if these are different. -/
inductive Site (t : Descriptor) : Descriptor → List String → Prop
  | here : Site t t []
  | nullable {ty inner : Descriptor} {path : List String} (h : ty.nullableInner? = some inner)
    (rest : Site t inner path) : Site t ty path
  | withDefault {inner : Descriptor} {value : Json} {path : List String} (rest : Site t inner path) :
    Site t (.withDefault inner value) path
  | constrained {inner : Descriptor} {con : Constraint} {path : List String} (rest : Site t inner path) :
    Site t (.constrained inner con) path
  | left {left right : Descriptor} {path : List String} (h : (sum left right).nullableInner? = none)
    (rest : Site t left path) : Site t (.sum left right) ("anyOf" :: "0" :: path)
  | right {left right : Descriptor} {path : List String} (h : (sum left right).nullableInner? = none)
    (rest : Site t right path) : Site t (.sum left right) ("anyOf" :: "1" :: path)
  | item {element : Descriptor} {path : List String} (rest : Site t element path) :
    Site t (.array element) ("items" :: path)
  | value {key value : Descriptor} {path : List String} (rest : Site t value path) :
    Site t (.map key value) ("additionalProperties" :: path)
  | field {fields : List Field} {f : Field} {path : List String}
    (names : (fields.map Member.name).Nodup) (mem : f ∈ fields) (rest : Site t f.type path) :
    Site t (.record fields) ("properties" :: f.name :: path)

/-- What must be found at the place of a type: an object, marked if the type admits null, with the
description of each field that has one. -/
structure Presents (t : Descriptor) (w : Json) : Prop where
  isObject : w.isObject = true
  nullable : t.nullableInner?.isSome = true → w.get? "nullable" = some (.bool true)
  described : ∀ fields, t = .record fields → (fields.map Member.name).Nodup →
    ∀ f ∈ fields, ∀ text, f.description = some text →
      ∃ property, ["properties", f.name].foldlM Pointer.child? w = some property ∧
        property.get? "description" = some (.str text)

/-- What must be found at all places of a fragment or schema. -/
def PresentsAll (ty : Descriptor) (v : Json) : Prop :=
  ∀ t path, Site t ty path → ∃ w, path.foldlM Pointer.child? v = some w ∧ t.Presents w

section sites
variable {r : Registry} {c : Catalog}

theorem foldlM_child?_cons {v w : Json} {token : String} (path : List String)
    (h : Pointer.child? v token = some w) :
    (token :: path).foldlM Pointer.child? v = path.foldlM Pointer.child? w := by
  rw [List.foldlM_cons, h]
  rfl

theorem foldlM_child?_property {fields : List Field} {v : Json}
    (names : (fields.map Member.name).Nodup) {f : Field} (mem : f ∈ fields) (path : List String)
    (annotated : (fragment r c (.record fields)).Annotated v) :
    ("properties" :: f.name :: path).foldlM Pointer.child? v =
      path.foldlM Pointer.child? (describe f.description (fragment r c f.type)) := by
  have properties : v.get? "properties" = some (.object (properties r c fields)) := by
    rw [annotated.get?_eq rfl (by decide) (by decide), fragment, Document.get?_objectSchema]
    · rfl
    · decide
  rw [foldlM_child?_cons _ (Pointer.child?_of_get? properties)]
  exact foldlM_child?_cons path (lookup_properties r c names mem)

theorem foldlM_child?_anyOf {left right : Descriptor} {v : Json} (path : List String)
    (h : (sum left right).nullableInner? = none)
    (annotated : (fragment r c (.sum left right)).Annotated v) :
    ("anyOf" :: "0" :: path).foldlM Pointer.child? v = path.foldlM Pointer.child? (fragment r c left) ∧
    ("anyOf" :: "1" :: path).foldlM Pointer.child? v = path.foldlM Pointer.child? (fragment r c right) := by
  rw [fragment_sum h] at annotated
  have alternatives : v.get? "anyOf" = some (.arr [fragment r c left, fragment r c right]) :=
    annotated.get?_eq rfl (by decide) (by decide)
  have digits : Nat.repr 0 = "0" ∧ Nat.repr 1 = "1" := by decide
  have first : Pointer.child? (.arr [fragment r c left, fragment r c right]) "0" =
      some (fragment r c left) := by simp [Pointer.child?, digits]
  have second : Pointer.child? (.arr [fragment r c left, fragment r c right]) "1" =
      some (fragment r c right) := by simp [Pointer.child?, digits]
  constructor
  · rw [foldlM_child?_cons _ (Pointer.child?_of_get? alternatives), foldlM_child?_cons _ first]
  · rw [foldlM_child?_cons _ (Pointer.child?_of_get? alternatives), foldlM_child?_cons _ second]

/-- At the place of a type stands its fragment, annotated by what is around it. -/
theorem Site.exists_annotated {t ty : Descriptor} {path : List String} (site : Site t ty path) :
    ∀ {v : Json}, (fragment r c ty).Annotated v →
      ∃ w, path.foldlM Pointer.child? v = some w ∧ (fragment r c t).Annotated w := by
  induction site with
  | here => exact fun {v} annotated => ⟨v, rfl, annotated⟩
  | nullable h rest ih =>
      intro v annotated
      rw [fragment_nullable h] at annotated
      exact ih (Json.Annotated.refl.nullable.trans annotated)
  | withDefault rest ih => exact ih
  | constrained rest ih => exact ih
  | left h rest ih =>
      intro v annotated
      rw [(foldlM_child?_anyOf _ h annotated).1]
      exact ih .refl
  | right h rest ih =>
      intro v annotated
      rw [(foldlM_child?_anyOf _ h annotated).2]
      exact ih .refl
  | @item element path rest ih =>
      intro v annotated
      rw [fragment] at annotated
      have items : v.get? "items" = some (fragment r c element) := by
        rw [annotated.get?_eq rfl (by decide) (by decide)]
        simp
      rw [foldlM_child?_cons _ (Pointer.child?_of_get? items)]
      exact ih .refl
  | @value key value path rest ih =>
      intro v annotated
      rw [fragment] at annotated
      have values : v.get? "additionalProperties" = some (fragment r c value) := by
        rw [annotated.get?_eq rfl (by decide) (by decide)]
        simp
      rw [foldlM_child?_cons _ (Pointer.child?_of_get? values)]
      exact ih .refl
  | @field fields f path names mem rest ih =>
      intro v annotated
      rw [foldlM_child?_property names mem path annotated]
      exact ih (Json.Annotated.refl.describe f.description)

/-- On assembled registries fragments are objects, and annotations of objects are not lost. -/
theorem presents_of_annotated (assembled : r.Assembled) {t : Descriptor} {w : Json}
    (annotated : (fragment r c t).Annotated w) : t.Presents w where
  isObject := annotated.isObject (assembled.isObject_fragment c t)
  nullable := by
    intro admitted
    obtain ⟨inner, h⟩ := Option.isSome_iff_exists.1 admitted
    refine annotated.get?_nullable (assembled.isObject_fragment c t) ?_
    rw [fragment_nullable h, Descriptor.nullable, Json.get?_set (assembled.isObject_fragment c inner),
      if_pos rfl]
  described := by
    rintro fields rfl names f mem text described
    refine ⟨_, foldlM_child?_property names mem [] annotated, ?_⟩
    rw [described, describe, Json.get?_set (assembled.isObject_fragment c f.type), if_pos rfl]

theorem presentsAll_of_annotated (assembled : r.Assembled) {ty : Descriptor} {v : Json}
    (annotated : (fragment r c ty).Annotated v) : ty.PresentsAll v := by
  intro t path site
  obtain ⟨w, found, annotated⟩ := site.exists_annotated annotated
  exact ⟨w, found, presents_of_annotated assembled annotated⟩

end sites
end Descriptor

/-! ### Struct schemas -/

theorem objectSchema_eq_describe (properties : List (String × Json)) (required : List String)
    (description : Option String) : objectSchema properties required description =
      Descriptor.describe description (objectSchema properties required none) := by
  cases description with
  | none => rfl
  | some text =>
      unfold objectSchema Descriptor.describe Json.object Json.set Entries.ofList
      simp only [Option.map_some, Option.toList_some, Option.map_none, Option.toList_none,
        List.append_nil, List.foldl_append, List.foldl_cons, List.foldl_nil]

theorem StructDef.presentsAll_schema {r : Registry} (assembled : r.Assembled) (c : Catalog)
    (d : StructDef) : (Descriptor.record d.fields).PresentsAll (d.schema r c) := by
  refine Descriptor.presentsAll_of_annotated (r := r) (c := c) assembled ?_
  unfold StructDef.schema
  rw [objectSchema_eq_describe]
  exact Json.Annotated.refl.describe d.description

/-- All schemas of a document present the fields of structs that have taken the names of these schemas,
except those that another document holds. -/
def Document.PresentsSchemas (c : Catalog) (before doc : Document) : Prop :=
  ∀ name schema, doc.schema? name = some schema → before.schema? name = some schema ∨
    ∃ d ∈ c.structs, d.canonicalName = name ∧ doc.origin? name = some d.origin ∧
      (Descriptor.record d.fields).PresentsAll schema

theorem Document.presentsSchemas_of_publish {r : Registry} (assembled : r.Assembled) {c : Catalog}
    {pending : List Mention} {doc final : Document} (h : publish r c pending doc = .ok final) :
    PresentsSchemas c doc final := by
  intro name schema held
  refine (exists_struct_of_publish h held).imp_right ?_
  rintro ⟨d, mem, same, taken, rfl⟩
  exact ⟨d, mem, same, taken, d.presentsAll_schema assembled c⟩

namespace Compiler

/-- With any registry that can be put together, from any document: what a fragment shows of a type is an
object at every place, marked where the type admits null, and each property has the description of its
field; and so in the schemas that are published. -/
theorem annotations_kept (start : Registry) (seeded : start = .empty ∨ start = .builtin)
    (calls : List (Leaf × Json)) :
    (∀ (r : Registry) l fragment, (r.register l fragment).isOk = Registry.accepts l fragment) ∧
    (∀ l, (start.registerAll calls).lookup l = ((calls.reverse.find? fun call =>
      Registry.accepts call.1 call.2 && call.1.name == l.name).map Prod.snd).or (start.lookup l)) ∧
    (∀ c ty doc v next, (fragment (start.registerAll calls) c ty).run.run doc = (.ok v, next) →
      ty.PresentsAll v ∧ Document.PresentsSchemas c doc next) ∧
    ∀ c roots doc, Document.compile (start.registerAll calls) c roots = .ok doc →
      Document.PresentsSchemas c .empty doc := by
  have assembled : (start.registerAll calls).Assembled := by
    rcases seeded with rfl | rfl
    · exact Registry.Assembled.empty.registerAll calls
    · exact Registry.Assembled.builtin.registerAll calls
  refine ⟨Registry.isOk_register, Registry.lookup_registerAll start calls, ?_, ?_⟩
  · intro c ty doc v next ran
    rw [run_fragment] at ran
    cases published : doc.publish (start.registerAll calls) c ty.mentions with
    | error e =>
        rw [published] at ran
        cases ran
    | ok final =>
        rw [published] at ran
        cases ran
        constructor
        · exact Descriptor.presentsAll_of_annotated assembled .refl
        · exact Document.presentsSchemas_of_publish assembled published
  · intro c roots doc compiled
    rw [Document.compile_eq_publish] at compiled
    exact Document.presentsSchemas_of_publish assembled compiled

/-! ### Prices of a shop -/

/-- An amount of money. -/
def money : Leaf := ⟨"money", .ok⟩

/-- Money is registered as a text with a description of its own that does not admit null; then as
something that is no fragment. -/
def moneyCalls : List (Leaf × Json) :=
  [(money, .object [("type", .str "string"), ("nullable", .bool false),
    ("description", .str "an amount with its currency")]),
   (money, .str "string")]

/-- A price that may be open. -/
def price : StructDef where
  origin := "shop::Price"
  schemaName := none
  description := some "what an item costs"
  fields := [⟨"amount", .optional (.leaf money), some "what is due"⟩]

/-- The catalog of prices. -/
def shop : Catalog := ⟨[price]⟩

/-- The document of prices. -/
def shopDocument : Document := Document.empty.add "Price"
  ⟨"shop::Price", price.schema (Registry.builtin.registerAll moneyCalls) shop⟩

/-- A list of prices, of which some may be missing. -/
def prices : Descriptor := .array (.optional (.struct 0))

/-- The fragment of the list. -/
def pricesFragment : Json :=
  .object [("type", .str "array"), ("items", Descriptor.nullable (schemaRef "Price"))]

theorem run_prices : (fragment (Registry.builtin.registerAll moneyCalls) shop prices).run.run .empty =
    (.ok pricesFragment, shopDocument) := by
  have mentioned : prices.mentions = [.struct (some 0)] := rfl
  have found : shop.resolve? (some 0) = some price := rfl
  have free : Document.empty.origin? price.canonicalName = none := rfl
  have inside : price.mentions = [.leaf money] := rfl
  have registered : (Registry.builtin.registerAll moneyCalls).contains money = true := rfl
  rw [run_fragment, mentioned, Document.publish_struct, found]
  simp only [free, inside, List.append_nil]
  rw [Document.publish_leaf, if_pos registered, Document.publish_nil]
  rfl

theorem annotations_kept_prices :
    prices.PresentsAll pricesFragment ∧ Document.PresentsSchemas shop .empty shopDocument := by
  obtain ⟨-, -, fragments, -⟩ := annotations_kept .builtin (.inr rfl) moneyCalls
  exact fragments shop prices .empty pricesFragment shopDocument run_prices

end Compiler
end ApiContract
