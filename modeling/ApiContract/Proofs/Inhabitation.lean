import ApiContract.Proofs.Coercion
import ApiContract.Proofs.LeafValues
import ApiContract.Proofs.Reach
import Mathlib.Data.List.Nodup

/-! # Coercion gives values of the type

`Descriptor.Inhabits` says which values a type has, from the type and the value alone: nothing in it
says what was read.  Coercion never gives anything else (`inhabits_of_coerce`).

A default need not be a value of the type that it is a default of: it is neither read nor checked.  So
it counts as a value of its type, and an object may also have the default of a field that it has under
constraints, whether it satisfies them or not (`FieldValue`). -/

namespace ApiContract
namespace Descriptor

mutual

/-- The values of a type. -/
inductive Inhabits (c : Catalog) : Descriptor → Json → Prop
  | leaf {l : Leaf} {w : Json} (value : l.Value w) : Inhabits c (.leaf l) w
  | null {ty inner : Descriptor} (admits : ty.nullableInner? = some inner) : Inhabits c ty .null
  | nullable {ty inner : Descriptor} {w : Json} (admits : ty.nullableInner? = some inner)
    (value : Inhabits c inner w) : Inhabits c ty w
  | default {inner : Descriptor} {fallback : Json} : Inhabits c (.withDefault inner fallback) fallback
  | withDefault {inner : Descriptor} {fallback w : Json} (value : Inhabits c inner w) :
    Inhabits c (.withDefault inner fallback) w
  | constrained {inner : Descriptor} {con : Constraint} {w : Json} (value : Inhabits c inner w)
    (satisfied : con.check w = .ok () ∨ (w = .null ∧ inner.isRequired = false)) :
    Inhabits c (.constrained inner con) w
  | left {left right : Descriptor} {w : Json} (general : (sum left right).nullableInner? = none)
    (value : Inhabits c left w) : Inhabits c (.sum left right) w
  | right {left right : Descriptor} {w : Json} (general : (sum left right).nullableInner? = none)
    (value : Inhabits c right w) : Inhabits c (.sum left right) w
  | array {element : Descriptor} {items : List Json} (values : ∀ x ∈ items, Inhabits c element x) :
    Inhabits c (.array element) (.arr items)
  | map {key value : Descriptor} {members : List (String × Json)}
    (values : ∀ name x, (name, x) ∈ members → Inhabits c value x) :
    Inhabits c (.map key value) (.obj members)
  | fields {ty : Descriptor} {fields : List Field} {members : List (String × Json)}
    (declares : ty.fieldsOf? c = some fields)
    (declared : ∀ name x, (name, x) ∈ members → ∃ f ∈ fields, f.name = name)
    (present : ∀ f ∈ fields, f.isRequired = true ∨ f.type.defaultValue?.isSome = true →
      (members.lookup f.name).isSome = true)
    (values : ∀ f ∈ fields, ∀ x, (f.name, x) ∈ members → FieldValue c f x) :
    Inhabits c ty (.obj members)

/-- What may stand for a field in an object: a value of its type, or its default. -/
inductive FieldValue (c : Catalog) : Field → Json → Prop
  | default {f : Field} {w : Json} (value : f.type.defaultValue? = some w) : FieldValue c f w
  | typed {f : Field} {w : Json} (value : Inhabits c f.type w) : FieldValue c f w

end

/-- Types over built-in leaves in which the names of fields tell them apart. -/
structure Standard (c : Catalog) (ty : Descriptor) : Prop where
  leaves : ∀ l, ty.Reaches c (.leaf l) → l ∈ Leaf.builtin
  names : ∀ s fields, ty.Reaches c s → s.fieldsOf? c = some fields →
    (fields.map Member.name).Nodup

theorem Standard.part {c : Catalog} {ty part : Descriptor} (h : ty.Standard c)
    (hp : part ∈ ty.parts c) : part.Standard c where
  leaves l reached := h.leaves l (reached.head hp)
  names s fields reached := h.names s fields (reached.head hp)

/-! ### One type at a time -/

section cases
variable {c : Catalog} {v w : Json}

theorem inhabits_of_coerce_leaf {l : Leaf} (known : l ∈ Leaf.builtin)
    (h : coerce c (.leaf l) v = .ok w) : Inhabits c (.leaf l) w := by
  rw [coerce_leaf] at h
  cases read : l.read v with
  | error message => rw [read] at h; cases h
  | ok x =>
      rw [read] at h
      cases h
      exact .leaf (Leaf.value_of_read known read)

theorem inhabits_of_coerce_nullable {ty inner : Descriptor} (hn : ty.nullableInner? = some inner)
    (h : coerce c ty v = .ok w) (value : coerce c inner v = .ok w → Inhabits c inner w) :
    Inhabits c ty w := by
  rw [coerce_nullable hn] at h
  split at h
  · cases h
    exact .null hn
  · exact .nullable hn (value h)

theorem inhabits_of_coerce_withDefault {inner : Descriptor} {fallback : Json}
    (h : coerce c (.withDefault inner fallback) v = .ok w)
    (value : coerce c inner v = .ok w → Inhabits c inner w) :
    Inhabits c (.withDefault inner fallback) w := by
  rw [coerce_withDefault] at h
  split at h
  · cases h
    exact .default
  · exact .withDefault (value h)

theorem inhabits_of_coerce_constrained {inner : Descriptor} {con : Constraint}
    (h : coerce c (.constrained inner con) v = .ok w)
    (value : coerce c inner v = .ok w → Inhabits c inner w) :
    Inhabits c (.constrained inner con) w := by
  rw [coerce_constrained] at h
  cases read : coerce c inner v with
  | error vs => rw [read] at h; cases h
  | ok x =>
      rw [read] at h
      obtain ⟨rfl, satisfied⟩ := checkConstraint_eq_ok_iff.1 h
      exact .constrained (value read) satisfied

theorem inhabits_of_coerce_sum {left right : Descriptor}
    (hn : (sum left right).nullableInner? = none) (h : coerce c (.sum left right) v = .ok w)
    (valueLeft : coerce c left v = .ok w → Inhabits c left w)
    (valueRight : coerce c right v = .ok w → Inhabits c right w) :
    Inhabits c (.sum left right) w := by
  rw [coerce_sum hn] at h
  split at h
  · next read =>
    cases h
    exact .left hn (valueLeft read)
  · split at h
    · next read =>
      cases h
      exact .right hn (valueRight read)
    · cases h

theorem inhabits_of_coerce_array {element : Descriptor} (h : coerce c (.array element) v = .ok w)
    (value : ∀ x y, sizeOf x < sizeOf v → coerce c element x = .ok y → Inhabits c element y) :
    Inhabits c (.array element) w := by
  obtain ⟨items, ws, rfl, rfl, results⟩ := coerce_array_eq_ok_iff.1 h
  refine .array fun y hy => ?_
  obtain ⟨x, hx, read⟩ := Checked.exists_source results hy
  exact value x y (Json.sizeOf_item_lt hx) read

theorem inhabits_of_coerce_map {key value : Descriptor} (h : coerce c (.map key value) v = .ok w)
    (member : ∀ x y, sizeOf x < sizeOf v → coerce c value x = .ok y → Inhabits c value y) :
    Inhabits c (.map key value) w := by
  obtain ⟨members, entries, rfl, rfl, results⟩ := coerce_map_eq_ok_iff.1 h
  refine .map fun name y hy => ?_
  obtain ⟨⟨text, x⟩, hm, entry⟩ := Checked.exists_source results (Entries.mem_of_mem_ofList hy)
  obtain ⟨k, z, -, read, same⟩ := entryResult_eq_ok_iff.1 entry
  cases same
  exact member x y (Json.sizeOf_member_lt hm) read

/-- The members of an object come from the members that were read, or are defaults.  Of two fields with one name
the last would stand in the object, read at its own type. -/
theorem inhabits_of_coerceFields {ty : Descriptor} {fields : List Field}
    (declares : ty.fieldsOf? c = some fields) (names : (fields.map Member.name).Nodup)
    (h : coerceFields c fields v = .ok w)
    (value : ∀ f ∈ fields, ∀ x y, sizeOf x < sizeOf v → coerce c f.type x = .ok y →
      Inhabits c f.type y) : Inhabits c ty w := by
  obtain ⟨members, entries, rfl, rfl, origin, present⟩ := coerceFields_members h
  have source (name : String) (x : Json) (hx : (name, x) ∈ Entries.ofList entries) :=
    origin name x (Entries.mem_of_mem_ofList hx)
  refine .fields declares ?_ ?_ ?_
  · intro name x hx
    obtain ⟨f, hf, same, -⟩ := source name x hx
    exact ⟨f, hf, same⟩
  · intro f hf needed
    obtain ⟨y, hy⟩ := present f hf needed
    exact Entries.lookup_ofList_isSome_of_mem hy
  · intro f hf x hx
    obtain ⟨g, hg, same, contributes⟩ := source f.name x hx
    obtain rfl := List.inj_on_of_nodup_map names hg hf same
    cases contributes with
    | read y found coerced => exact .typed (value g hg y x (Json.sizeOf_lookup_lt found) coerced)
    | default absent fallback => exact .default fallback

end cases

/-! ### All types -/

/-- What coercion gives at a type is a value of the type.  The induction goes along the recursion of
coercion: the parts of a list or object are smaller than the value, and under a wrapper the type is. -/
theorem inhabits_of_coerce {c : Catalog} {ty : Descriptor} (standard : ty.Standard c) {v w : Json}
    (h : ty.coerce c v = .ok w) : ty.Inhabits c w := by
  have fields {fields : List Field} (declares : ty.fieldsOf? c = some fields)
      (h : coerceFields c fields v = .ok w) : Inhabits c ty w := by
    refine inhabits_of_coerceFields declares (standard.names ty fields .refl declares) h ?_
    intro f hf x y smaller read
    exact inhabits_of_coerce (standard.part (type_mem_parts declares hf)) read
  match ty with
  | .leaf l => exact inhabits_of_coerce_leaf (standard.leaves l .refl) h
  | .optional inner =>
      have part := standard.part (List.mem_singleton_self inner)
      exact inhabits_of_coerce_nullable rfl h (inhabits_of_coerce part)
  | .withDefault inner fallback =>
      have part := standard.part (List.mem_singleton_self inner)
      exact inhabits_of_coerce_withDefault h (inhabits_of_coerce part)
  | .constrained inner con =>
      have part := standard.part (List.mem_singleton_self inner)
      exact inhabits_of_coerce_constrained h (inhabits_of_coerce part)
  | .sum left right =>
      cases hn : (sum left right).nullableInner? with
      | some inner =>
          have part : inner.Standard c := standard.part (by rw [parts_nullable hn]; simp)
          have smaller := sizeOf_lt_of_nullableInner? hn
          exact inhabits_of_coerce_nullable hn h (inhabits_of_coerce part)
      | none =>
          have hparts := parts_sum (c := c) hn
          have partLeft : left.Standard c := standard.part (by rw [hparts]; simp)
          have partRight : right.Standard c := standard.part (by rw [hparts]; simp)
          exact inhabits_of_coerce_sum hn h (inhabits_of_coerce partLeft)
            (inhabits_of_coerce partRight)
  | .struct id =>
      obtain ⟨d, found, read⟩ := coerce_struct_eq_ok_iff.1 h
      exact fields (fieldsOf?_of_structOf? found) read
  | .recursive id =>
      obtain ⟨d, found, read⟩ := coerce_recursive_eq_ok_iff.1 h
      exact fields (fieldsOf?_of_structOf? found) read
  | .array element =>
      have part := standard.part (List.mem_singleton_self element)
      exact inhabits_of_coerce_array h fun x y smaller read => inhabits_of_coerce part read
  | .map key value =>
      have part := standard.part (List.mem_singleton_self value)
      exact inhabits_of_coerce_map h fun x y smaller read => inhabits_of_coerce part read
  | .record fieldList =>
      rw [coerce_record] at h
      exact fields rfl h
termination_by (sizeOf v, sizeOf ty)

/-! ### Stays in a guest house -/

/-- A stay with its first day, its guests, and the stay that follows it.  A stay without a number of
nights has the default, which the constraint on the number does not admit. -/
def stay : StructDef where
  origin := "house::Stay"
  schemaName := some "Stay"
  description := none
  fields := [⟨"from", .leaf .date, none⟩, ⟨"id", .leaf .uuid, none⟩,
    ⟨"guests", .constrained (.array (.leaf .string)) (.length 1 none), none⟩,
    ⟨"nights", .constrained (.withDefault (.leaf .integer) (.ofInt 0)) (.oneOf [.ofInt 1, .ofInt 2]),
      none⟩,
    ⟨"next", .optional (.recursive (some 0)), none⟩]

/-- The catalog of stays. -/
def house : Catalog := ⟨[stay]⟩

/-- All that a stay reaches. -/
def stayTypes : List Descriptor := [.struct 0, .recursive (some 0)] ++ stay.fields.map Member.type ++
  [.array (.leaf .string), .leaf .string, .withDefault (.leaf .integer) (.ofInt 0), .leaf .integer]

theorem mem_stayTypes {s : Descriptor} (h : (struct 0).Reaches house s) : s ∈ stayTypes := by
  have fields : (struct 0).fieldsOf? house = some stay.fields := rfl
  have again : (recursive (some 0)).fieldsOf? house = some stay.fields := rfl
  have closed : ∀ t ∈ stayTypes, t.parts house ⊆ stayTypes := by
    simp [stayTypes, fields, again, stay, parts]
  induction h with
  | refl => exact List.mem_cons_self
  | tail _ step ih => exact closed _ ih step

theorem stay_standard : (struct 0).Standard house where
  leaves l h := by
    have known := mem_stayTypes h
    simp only [stayTypes, stay, List.map_cons, List.map_nil, List.cons_append, List.nil_append,
      List.mem_cons, reduceCtorEq, leaf.injEq, List.not_mem_nil, or_false, false_or] at known
    rcases known with rfl | rfl | rfl | rfl <;> simp [Leaf.builtin]
  names s fields h hf := by
    have known := mem_stayTypes h
    simp only [stayTypes, stay, List.map_cons, List.map_nil, List.cons_append, List.nil_append,
      List.mem_cons, List.not_mem_nil, or_false] at known
    rcases known with rfl | rfl | rfl | rfl | rfl | rfl | rfl | rfl | rfl | rfl | rfl <;> cases hf
    · decide
    · decide

/-- A stay with a member that it does not declare, digits in upper case, no nights and an empty text for
no next stay. -/
theorem coerce_stay : (struct 0).coerce house (.obj [("color", .str "red"), ("from", .str "2024-02-29"),
      ("guests", .arr [.str "Ada"]), ("id", .str "0123ABCD-89ab-CDEF-0123-456789ABCDEF"),
      ("next", .str "")]) =
    .ok (.obj [("from", .str "2024-02-29"), ("guests", .arr [.str "Ada"]),
      ("id", .str "0123abcd-89ab-cdef-0123-456789abcdef"), ("next", .null), ("nights", .ofInt 0)]) := by
  have found : house.find? 0 = some stay := rfl
  have day : Leaf.date.read (.str "2024-02-29") = .ok (.str "2024-02-29") := rfl
  have id : Leaf.uuid.read (.str "0123ABCD-89ab-CDEF-0123-456789ABCDEF") =
      .ok (.str "0123abcd-89ab-cdef-0123-456789abcdef") := rfl
  have guests : coerce house (.constrained (.array (.leaf .string)) (.length 1 none))
      (.arr [.str "Ada"]) = .ok (.arr [.str "Ada"]) := by
    simp only [coerce_constrained, coerce_array, coerce_leaf, List.mapIdx_cons, List.mapIdx_nil]
    rfl
  have next : coerce house (.optional (.recursive (some 0))) (.str "") = .ok .null := by
    rw [coerce_optional]
    rfl
  simp only [coerce_struct, found, stay, coerceFields_obj, Entries.lookup_cons, List.lookup_nil,
    List.map_cons, List.map_nil, String.reduceEq, if_true, if_false, Option.map_some, Option.map_none,
    coerce_leaf, day, id, guests, next]
  rfl

/-- The stay has its members, although its number of nights is a default that the constraint does not
admit. -/
theorem inhabits_of_coerce_stay : (struct 0).Inhabits house
    (.obj [("from", .str "2024-02-29"), ("guests", .arr [.str "Ada"]),
      ("id", .str "0123abcd-89ab-cdef-0123-456789abcdef"), ("next", .null), ("nights", .ofInt 0)]) :=
  inhabits_of_coerce stay_standard coerce_stay

end Descriptor
end ApiContract
