import ApiContract.Proofs.Registry
import ApiContract.Proofs.Schema.Publication

/-! # References lead to schemas

A text under `$ref` anywhere in a value is a reference (`Json.HasRef`).  In the fragment of a type, the
references are those to the structs that the fragment mentions, if the fragments of leaves have none
(`refsIn_fragment`).  The members of an object have names that anyone may choose, `$ref` too; no
reference comes from these, because what stands under such a name is an object.

A document is closed if the references in its schemas lead to its schemas and if its names have origins
as well as schemas (`Document.Closed`).  Publishing keeps a document closed and changes none of its
entries (`Document.Closed.publish`). -/

namespace ApiContract

/-! ### References in values -/

namespace Json

/-- A text that stands under `$ref` somewhere in a value. -/
inductive HasRef : Json → String → Prop
  | here {members : List (String × Json)} {text : String} (h : ("$ref", .str text) ∈ members) :
    HasRef (.obj members) text
  | member {members : List (String × Json)} {name text : String} {v : Json}
    (h : (name, v) ∈ members) (inside : HasRef v text) : HasRef (.obj members) text
  | item {items : List Json} {text : String} {v : Json} (h : v ∈ items) (inside : HasRef v text) :
    HasRef (.arr items) text

/-- All references in a value have a property. -/
def RefsIn (P : String → Prop) (v : Json) : Prop := ∀ text, v.HasRef text → P text

/-- All references in some members have a property, and none of the members is one. -/
def MembersIn (P : String → Prop) (members : List (String × Json)) : Prop :=
  ∀ m ∈ members, m.2.RefsIn P ∧ (m.1 = "$ref" → m.2.str? = none)

section refs
variable {P Q : String → Prop} {v : Json} {members : List (String × Json)} {key : String}

theorem RefsIn.mono (h : v.RefsIn P) (implies : ∀ text, P text → Q text) : v.RefsIn Q :=
  fun text ref => implies text (h text ref)

theorem refsIn_str (text : String) : (str text).RefsIn P := fun _ ref => by cases ref

theorem refsIn_bool (b : Bool) : (bool b).RefsIn P := fun _ ref => by cases ref

theorem refsIn_arr {items : List Json} (h : ∀ v ∈ items, v.RefsIn P) : (arr items).RefsIn P := by
  intro text ref
  cases ref with
  | item mem inside => exact h _ mem text inside

theorem refsIn_obj (h : MembersIn P members) : (obj members).RefsIn P := by
  intro text ref
  cases ref with
  | here mem => cases (h _ mem).2 rfl
  | member mem inside => exact (h _ mem).1 text inside

theorem refsIn_object (h : MembersIn P members) : (object members).RefsIn P :=
  refsIn_obj fun m hm => h m (Entries.mem_of_mem_ofList hm)

/-- A member that is set is one more, or stands for another of its name. -/
theorem RefsIn.set {value : Json} (h : v.RefsIn P) (hv : value.RefsIn P) (name : key ≠ "$ref") :
    (v.set key value).RefsIn P := by
  intro text ref
  cases v with
  | obj members =>
      rw [Json.set] at ref
      cases ref with
      | here mem =>
          rcases Entries.mem_insert mem with e | mem
          · exact absurd (Prod.mk.inj e).1.symm name
          · exact h text (.here mem)
      | member mem inside =>
          rcases Entries.mem_insert mem with e | mem
          · cases e
            exact hv text inside
          · exact h text (.member mem inside)
  | _ => exact h text ref

theorem str?_of_isObject (h : v.isObject = true) : v.str? = none := by
  cases v with
  | obj => rfl
  | _ => cases h

@[simp] theorem membersIn_nil : MembersIn P [] := fun _ h => by cases h

theorem membersIn_cons (value : v.RefsIn P) (own : key = "$ref" → v.str? = none)
    (rest : MembersIn P members) : MembersIn P ((key, v) :: members) := by
  intro m hm
  rcases List.mem_cons.1 hm with rfl | hm
  · exact ⟨value, own⟩
  · exact rest m hm

/-- A member with a name that is known not to be `$ref`. -/
theorem membersIn_named (name : key ≠ "$ref") (value : v.RefsIn P) (rest : MembersIn P members) :
    MembersIn P ((key, v) :: members) :=
  membersIn_cons value (fun same => absurd same name) rest

theorem MembersIn.append {more : List (String × Json)} (h : MembersIn P members)
    (hm : MembersIn P more) : MembersIn P (members ++ more) := by
  intro m mem
  rcases List.mem_append.1 mem with mem | mem
  · exact h m mem
  · exact hm m mem

theorem membersIn_option {α : Type} {f : α → Json} {o : Option α} (name : key ≠ "$ref")
    (h : ∀ a, o = some a → (f a).RefsIn P) : MembersIn P (o.map fun a => (key, f a)).toList := by
  cases o with
  | none => exact membersIn_nil
  | some a => exact membersIn_named name (h a rfl) membersIn_nil

theorem membersIn_ite {condition : Prop} [Decidable condition] {other : List (String × Json)}
    (h : MembersIn P members) (ho : MembersIn P other) :
    MembersIn P (if condition then members else other) := by
  split
  · exact h
  · exact ho

end refs

end Json

/-! ### References in fragments -/

theorem refsIn_schemaRef {P : String → Prop} {name : String} (h : P ("#/components/schemas/" ++ name)) :
    (schemaRef name).RefsIn P := by
  intro text ref
  cases ref with
  | here mem =>
      have same := Entries.mem_of_mem_ofList mem
      rw [List.mem_singleton, Prod.mk.injEq, Json.str.injEq] at same
      rw [same.2]
      exact h
  | member mem inside =>
      have same := Entries.mem_of_mem_ofList mem
      rw [List.mem_singleton, Prod.mk.injEq] at same
      rw [same.2] at inside
      cases inside

theorem refsIn_objectSchema {P : String → Prop} {properties : List (String × Json)}
    (h : Json.MembersIn P properties) (required : List String) (description : Option String) :
    (objectSchema properties required description).RefsIn P := by
  have texts : ∀ v ∈ required.map Json.str, v.RefsIn P := by
    intro v hv
    obtain ⟨text, -, rfl⟩ := List.mem_map.1 hv
    exact Json.refsIn_str text
  refine Json.refsIn_object (.append (.append ?_ ?_) ?_)
  · exact Json.membersIn_named (by decide) (Json.refsIn_str _)
      (Json.membersIn_named (by decide) (Json.refsIn_object h) Json.membersIn_nil)
  · exact Json.membersIn_ite Json.membersIn_nil
      (Json.membersIn_named (by decide) (Json.refsIn_arr texts) Json.membersIn_nil)
  · exact Json.membersIn_option (by decide) fun text _ => Json.refsIn_str text

/-- No fragment of a leaf has a reference. -/
def Registry.RefFree (r : Registry) : Prop :=
  ∀ l fragment, r.lookup l = some fragment → ∀ text, ¬ fragment.HasRef text

theorem Registry.builtin_refFree : Registry.builtin.RefFree := by
  intro l fragment h text
  suffices fragment.RefsIn fun _ => False from this text
  have typed (type : String) : (plain type).RefsIn fun _ => False :=
    Json.refsIn_object (Json.membersIn_named (by decide) (Json.refsIn_str _) Json.membersIn_nil)
  have formatted (format : String) : (formatted format).RefsIn fun _ => False :=
    Json.refsIn_object (Json.membersIn_named (by decide) (Json.refsIn_str _)
      (Json.membersIn_named (by decide) (Json.refsIn_str _) Json.membersIn_nil))
  have empty : (Json.obj []).RefsIn fun _ => False := Json.refsIn_obj Json.membersIn_nil
  rw [lookup_builtin] at h
  repeat' split at h
  all_goals cases h
  · exact empty.set (Json.refsIn_bool true) (by decide)
  · exact empty
  · exact formatted "uuid"
  · exact formatted "date-time"
  · exact formatted "date"
  · exact typed "boolean"
  · exact typed "number"
  · exact typed "integer"
  · exact typed "string"

namespace Descriptor
variable {r : Registry} {c : Catalog} {P : String → Prop}

theorem refsIn_describe {property : Json} (h : property.RefsIn P) (description : Option String) :
    (describe description property).RefsIn P := by
  cases description with
  | none => exact h
  | some text => exact h.set (Json.refsIn_str text) (by decide)

theorem refsIn_refTo {d : Option StructDef}
    (h : ∀ e, d = some e → P ("#/components/schemas/" ++ e.canonicalName)) : (refTo d).RefsIn P := by
  cases d with
  | none => exact Json.refsIn_obj Json.membersIn_nil
  | some e => exact refsIn_schemaRef (h e rfl)

/-- A property of the references to the structs that are mentioned. -/
def RefersTo (c : Catalog) (P : String → Prop) (mentions : List Mention) : Prop :=
  ∀ id d, .struct id ∈ mentions → c.resolve? id = some d →
    P ("#/components/schemas/" ++ d.canonicalName)

theorem RefersTo.left {ms ns : List Mention} (h : RefersTo c P (ms ++ ns)) : RefersTo c P ms :=
  fun id d mentioned => h id d (List.mem_append_left _ mentioned)

theorem RefersTo.right {ms ns : List Mention} (h : RefersTo c P (ms ++ ns)) : RefersTo c P ns :=
  fun id d mentioned => h id d (List.mem_append_right _ mentioned)

mutual

theorem refsIn_fragment (assembled : r.Assembled) (free : r.RefFree) :
    ∀ ty : Descriptor, RefersTo c P ty.mentions → (fragment r c ty).RefsIn P
  | .leaf l, _ => by
      rw [fragment]
      cases h : r.lookup l with
      | none => exact Json.refsIn_obj Json.membersIn_nil
      | some known => exact fun text ref => absurd ref (free l known h text)
  | .optional inner, h =>
      (refsIn_fragment assembled free inner h).set (Json.refsIn_bool true) (by decide)
  | .withDefault inner _, h => refsIn_fragment assembled free inner h
  | .constrained inner _, h => refsIn_fragment assembled free inner h
  | .sum left right, h => by
      rw [mentions] at h
      rw [fragment]
      split
      · next hr =>
        rw [if_pos hr] at h
        exact (refsIn_fragment assembled free left h).set (Json.refsIn_bool true) (by decide)
      · next hr =>
        rw [if_neg hr] at h
        split
        · next hl =>
          rw [if_pos hl] at h
          exact (refsIn_fragment assembled free right h).set (Json.refsIn_bool true) (by decide)
        · next hl =>
          rw [if_neg hl] at h
          refine Json.refsIn_object (Json.membersIn_named (by decide) (Json.refsIn_arr ?_)
            Json.membersIn_nil)
          intro v hv
          simp only [List.mem_cons, List.not_mem_nil, or_false] at hv
          rcases hv with rfl | rfl
          · exact refsIn_fragment assembled free left h.left
          · exact refsIn_fragment assembled free right h.right
  | .struct id, h => refsIn_refTo fun d found => h (some id) d (List.mem_singleton_self _) found
  | .recursive id, h => refsIn_refTo fun d found => h id d (List.mem_singleton_self _) found
  | .array element, h =>
      Json.refsIn_object <| Json.membersIn_named (by decide) (Json.refsIn_str _) <|
        Json.membersIn_named (by decide) (refsIn_fragment assembled free element h) Json.membersIn_nil
  | .map _ value, h =>
      Json.refsIn_object <| Json.membersIn_named (by decide) (Json.refsIn_str _) <|
        Json.membersIn_named (by decide) (refsIn_fragment assembled free value h) Json.membersIn_nil
  | .record fields, h => refsIn_objectSchema (membersIn_properties assembled free fields h) _ none

/-- A field may be called `$ref`; its fragment is an object, and no reference. -/
theorem membersIn_properties (assembled : r.Assembled) (free : r.RefFree) :
    ∀ fields : List Field, RefersTo c P (fieldMentions fields) →
      Json.MembersIn P (properties r c fields)
  | [], _ => Json.membersIn_nil
  | ⟨name, type, description⟩ :: fields, h => by
      have object : (describe description (fragment r c type)).isObject = true := by
        rw [Json.isObject_describe]
        exact assembled.isObject_fragment c type
      have property := refsIn_describe (refsIn_fragment assembled free type h.left) description
      exact Json.membersIn_cons property (fun _ => Json.str?_of_isObject object)
        (membersIn_properties assembled free fields h.right)

end

end Descriptor

/-! ### Closed documents -/

namespace Document

/-- All references in a value lead to schemas of a document. -/
def Covers (doc : Document) (v : Json) : Prop :=
  v.RefsIn fun text => ∃ name ∈ doc.names, text = "#/components/schemas/" ++ name

/-- A document that has the entries of another. -/
structure Extends (doc next : Document) : Prop where
  schemas : ∀ name schema, doc.schema? name = some schema → next.schema? name = some schema
  origins : ∀ name origin, doc.origin? name = some origin → next.origin? name = some origin

/-- A document whose names have schemas and origins, and whose references lead to its schemas. -/
structure Closed (doc : Document) : Prop where
  paired : doc.Paired
  covers : ∀ name schema, doc.schema? name = some schema → doc.Covers schema

section closed
variable {doc next final : Document} {v : Json}

theorem Extends.refl (doc : Document) : doc.Extends doc := ⟨fun _ _ h => h, fun _ _ h => h⟩

theorem Extends.trans (first : doc.Extends next) (second : next.Extends final) : doc.Extends final where
  schemas name schema h := second.schemas name schema (first.schemas name schema h)
  origins name origin h := second.origins name origin (first.origins name origin h)

theorem mem_names_iff {name : String} :
    name ∈ doc.names ↔ ∃ schema, doc.schema? name = some schema := by
  rw [names, Dict.mem_keys_iff, Option.isSome_iff_exists]
  rfl

theorem Paired.exists_origin? (paired : doc.Paired) {name : String} {schema : Json}
    (held : doc.schema? name = some schema) : ∃ origin, doc.origin? name = some origin := by
  have known := paired name
  rw [held] at known
  exact Option.isSome_iff_exists.1 known.symm

theorem Covers.mono (h : doc.Covers v) (ext : doc.Extends next) : next.Covers v := by
  refine Json.RefsIn.mono h ?_
  rintro text ⟨name, mem, rfl⟩
  obtain ⟨schema, held⟩ := mem_names_iff.1 mem
  exact ⟨name, mem_names_iff.2 ⟨schema, ext.schemas name schema held⟩, rfl⟩

theorem closed_empty : empty.Closed where
  paired := paired_empty
  covers _ _ h := by cases h

theorem Paired.refersTo {r : Registry} {c : Catalog} {ms : List Mention} (paired : doc.Paired)
    (honoured : ∀ m ∈ ms, Honours r c doc m) : Descriptor.RefersTo c
      (fun text => ∃ name ∈ doc.names, text = "#/components/schemas/" ++ name) ms := by
  intro id d mentioned found
  obtain ⟨e, found', taken⟩ := honoured _ mentioned
  obtain rfl := Option.some.inj (found.symm.trans found')
  obtain ⟨p, held, -⟩ := paired.get?_of_origin? taken
  exact ⟨d.canonicalName, mem_names_iff.2 ⟨p.schema, (get?_published_eq_some_iff.1 held).2⟩, rfl⟩

variable {r : Registry} {c : Catalog} {pending : List Mention}

theorem publish_extends (paired : doc.Paired) (h : publish r c pending doc = .ok final) :
    doc.Extends final where
  schemas name schema held := by
    obtain ⟨origin, taken⟩ := paired.exists_origin? held
    have entry : doc.published.get? name = some ⟨origin, schema⟩ :=
      get?_published_eq_some_iff.2 ⟨taken, held⟩
    exact (get?_published_eq_some_iff.1 (publish_keeps h entry)).2
  origins name origin taken := publish_keeps_origin h taken

/-- Publishing adds schemas whose references lead to the schemas that are published with them, no matter which
types the structs are reached from. -/
theorem Closed.publish (assembled : r.Assembled) (free : r.RefFree) (closed : doc.Closed)
    (h : publish r c pending doc = .ok final) : final.Closed where
  paired := publish_paired h closed.paired
  covers name schema held := by
    have paired := publish_paired h closed.paired
    rw [paired.schema?_eq] at held
    obtain ⟨p, entry, rfl⟩ := Option.map_eq_some_iff.1 held
    rcases publish_entries (fun _ => True) (by simp) (by simp) h entry with before | ⟨d, described⟩
    · have own := (get?_published_eq_some_iff.1 before).2
      exact (closed.covers name p.schema own).mono (publish_extends closed.paired h)
    · rw [described.entry_eq]
      refine refsIn_objectSchema ?_ _ d.description
      exact Descriptor.membersIn_properties assembled free d.fields
        (paired.refersTo described.honours)

theorem Closed.covers_fragment (assembled : r.Assembled) (free : r.RefFree) (closed : doc.Closed)
    {ty : Descriptor} (h : Document.publish r c ty.mentions doc = .ok final) :
    final.Covers (ty.fragment r c) :=
  Descriptor.refsIn_fragment assembled free ty
    ((publish_paired h closed.paired).refersTo (publish_honours h))

end closed
end Document
end ApiContract
