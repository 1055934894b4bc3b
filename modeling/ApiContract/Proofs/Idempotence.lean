import ApiContract.Proofs.Inhabitation
import ApiContract.Proofs.LeafStability

/-! # What has been read is read as it is

Reading is idempotent: what coercion gives at a type it gives again when it reads that
(`coerce_idempotent`).  A type is stable for this if its sums admit null and nothing else, the keys of
its maps survive being written, and its defaults are values that their types read as they are.

Two facts about results carry the wrappers.  The empty text comes only out of types for which it is a
value (`isTextual_of_coerce`), so no result is taken for the absence of a value the second time.  A type
that must be present gives null only for null (`ne_null_of_coerce`), so no result is replaced by a
default. -/

namespace ApiContract
namespace Descriptor

/-- Types whose sums are nullable, whose keys are of leaves that can be written, and whose defaults are
read as they are. -/
structure Stable (c : Catalog) (ty : Descriptor) : Prop extends Standard c ty where
  sums : ∀ left right, ty.Reaches c (.sum left right) →
    (sum left right).nullableInner?.isSome = true
  keys : ∀ key value, ty.Reaches c (.map key value) → ∃ l ∈ Leaf.keyLeaves, key = .leaf l
  defaults : ∀ inner fallback, ty.Reaches c (.withDefault inner fallback) →
    inner.isRequired = true ∧ (fallback = .null ∨ inner.coerce c fallback = .ok fallback)
  fallbacks : ∀ s fields, ty.Reaches c s → s.fieldsOf? c = some fields → ∀ f ∈ fields,
    ∀ fallback, f.type.defaultValue? = some fallback → f.type.coerce c fallback = .ok fallback

theorem Stable.part {c : Catalog} {ty part : Descriptor} (h : ty.Stable c)
    (hp : part ∈ ty.parts c) : part.Stable c where
  toStandard := h.toStandard.part hp
  sums left right reached := h.sums left right (reached.head hp)
  keys key value reached := h.keys key value (reached.head hp)
  defaults inner fallback reached := h.defaults inner fallback (reached.head hp)
  fallbacks s fields reached := h.fallbacks s fields (reached.head hp)

section results
variable {c : Catalog} {v w : Json}

theorem Stable.nullable {left right : Descriptor} (h : (sum left right).Stable c) :
    ∃ inner, (sum left right).nullableInner? = some inner ∧ inner.Stable c := by
  obtain ⟨inner, hn⟩ := Option.isSome_iff_exists.1 (h.sums left right .refl)
  exact ⟨inner, hn, h.part (by rw [parts_nullable hn]; exact List.mem_singleton_self inner)⟩

/-! ### Lists and objects -/

theorem exists_obj_of_coerceFields {fields : List Field} (h : coerceFields c fields v = .ok w) :
    ∃ members, w = .obj members := by
  obtain ⟨_, parts, -, rfl, -⟩ := coerceFields_eq_ok_iff.1 h
  exact ⟨_, rfl⟩

/-- Whether all values of a type are lists or objects. -/
def isComposite : Descriptor → Bool
  | .struct _ | .recursive _ | .array _ | .map _ _ | .record _ => true
  | _ => false

theorem arr_or_obj_of_coerce {ty : Descriptor} (composite : ty.isComposite = true)
    (h : coerce c ty v = .ok w) : (∃ items, w = .arr items) ∨ ∃ members, w = .obj members := by
  cases ty with
  | struct =>
      obtain ⟨_, -, read⟩ := coerce_struct_eq_ok_iff.1 h
      exact .inr (exists_obj_of_coerceFields read)
  | recursive =>
      obtain ⟨_, -, read⟩ := coerce_recursive_eq_ok_iff.1 h
      exact .inr (exists_obj_of_coerceFields read)
  | array =>
      obtain ⟨_, items, -, rfl, -⟩ := coerce_array_eq_ok_iff.1 h
      exact .inl ⟨items, rfl⟩
  | map =>
      obtain ⟨_, _, -, rfl, -⟩ := coerce_map_eq_ok_iff.1 h
      exact .inr ⟨_, rfl⟩
  | record =>
      rw [coerce_record] at h
      exact .inr (exists_obj_of_coerceFields h)
  | _ => cases composite

theorem coerce_ne_null_of_isComposite {ty : Descriptor} (composite : ty.isComposite = true) :
    coerce c ty v ≠ .ok .null := by
  intro h
  rcases arr_or_obj_of_coerce composite h with ⟨_, same⟩ | ⟨_, same⟩ <;> cases same

/-! ### The empty text -/

theorem isTextual_of_coerce : ∀ ty : Descriptor, ty.Stable c → ∀ {v : Json},
    coerce c ty v = .ok (.str "") → ty.isTextual = true
  | .leaf l, stable, v, h =>
      have read := coerce_leaf_eq_ok_iff.1 h
      Leaf.isTextual_of_value (Leaf.value_of_read (stable.leaves l .refl) read)
  | .optional inner, stable, v, h => by
      have part := stable.part (List.mem_singleton_self inner)
      rcases (coerce_nullable_eq_ok_iff rfl).1 h with ⟨-, same⟩ | ⟨-, read⟩
      · cases same
      · exact isTextual_of_coerce inner part read
  | .withDefault inner fallback, stable, v, h => by
      have part := stable.part (List.mem_singleton_self inner)
      rcases coerce_withDefault_eq_ok_iff.1 h with ⟨-, rfl⟩ | ⟨-, read⟩
      · rcases (stable.defaults inner _ .refl).2 with same | read
        · cases same
        · exact isTextual_of_coerce inner part read
      · exact isTextual_of_coerce inner part read
  | .constrained inner con, stable, v, h =>
      have part := stable.part (List.mem_singleton_self inner)
      isTextual_of_coerce inner part (coerce_constrained_eq_ok_iff.1 h).1
  | .sum left right, stable, v, h => by
      obtain ⟨inner, hn, part⟩ := stable.nullable
      have smaller := sizeOf_lt_of_nullableInner? hn
      rcases (coerce_nullable_eq_ok_iff hn).1 h with ⟨-, same⟩ | ⟨-, read⟩
      · cases same
      · exact (isTextual_nullable hn).trans (isTextual_of_coerce inner part read)
  | .struct _, _, _, h | .recursive _, _, _, h | .array _, _, _, h | .map _ _, _, _, h
  | .record _, _, _, h => by
      rcases arr_or_obj_of_coerce rfl h with ⟨_, same⟩ | ⟨_, same⟩ <;> cases same

/-! ### Null -/

/-- A type that must be present gives null for nothing but null. -/
theorem ne_null_of_coerce : ∀ ty : Descriptor, ty.Stable c → ty.isRequired = true →
    ∀ {v w : Json}, v ≠ .null → coerce c ty v = .ok w → w ≠ .null
  | .leaf l, stable, required, v, w, given, h =>
      have present : l.isAbsence = false := isAbsence_of_isRequired required
      Leaf.ne_null_of_read (stable.leaves l .refl) present given (coerce_leaf_eq_ok_iff.1 h)
  | .constrained inner con, stable, required, v, w, given, h =>
      have part := stable.part (List.mem_singleton_self inner)
      ne_null_of_coerce inner part required given (coerce_constrained_eq_ok_iff.1 h).1
  | .sum left right, stable, required, v, w, given, h => by
      obtain ⟨inner, hn, -⟩ := stable.nullable
      rw [isRequired, hn] at required
      · cases required
      all_goals simp
  | .struct _, _, _, _, _, _, h | .recursive _, _, _, _, _, _, h | .array _, _, _, _, _, _, h
  | .map _ _, _, _, _, _, _, h | .record _, _, _, _, _, _, h => by
      rintro rfl
      exact coerce_ne_null_of_isComposite rfl h

/-! ### One type at a time -/

/-- A result is null, or it does not stand for null. -/
theorem coerce_nullable_idempotent {ty inner : Descriptor} (hn : ty.nullableInner? = some inner)
    (stable : inner.Stable c) (h : coerce c ty v = .ok w)
    (again : coerce c inner v = .ok w → coerce c inner w = .ok w) : coerce c ty w = .ok w := by
  rw [coerce_nullable hn]
  rcases (coerce_nullable_eq_ok_iff hn).1 h with ⟨-, rfl⟩ | ⟨-, read⟩
  · rfl
  · split
    · next empty =>
      cases w with
      | null => rfl
      | str s =>
          simp only [meansNull, Bool.and_eq_true, Bool.not_eq_true', String.isEmpty_iff] at empty
          obtain ⟨rfl, other⟩ := empty
          rw [isTextual_of_coerce inner stable read] at other
          cases other
      | _ => cases empty
    · exact again read

theorem coerce_withDefault_idempotent {inner : Descriptor} {fallback : Json}
    (stable : (withDefault inner fallback).Stable c)
    (h : coerce c (.withDefault inner fallback) v = .ok w)
    (again : coerce c inner v = .ok w → coerce c inner w = .ok w) :
    coerce c (.withDefault inner fallback) w = .ok w := by
  obtain ⟨required, own⟩ := stable.defaults inner fallback .refl
  rcases coerce_withDefault_eq_ok_iff.1 h with ⟨-, rfl⟩ | ⟨given, read⟩
  · refine coerce_withDefault_eq_ok_iff.2 ?_
    rcases own with null | own
    · exact .inl ⟨null, rfl⟩
    · by_cases null : w = .null
      · exact .inl ⟨null, rfl⟩
      · exact .inr ⟨null, own⟩
  · have part := stable.part (List.mem_singleton_self inner)
    have present := ne_null_of_coerce inner part required given read
    exact coerce_withDefault_eq_ok_iff.2 (.inr ⟨present, again read⟩)

theorem coerce_array_idempotent {element : Descriptor} (h : coerce c (.array element) v = .ok w)
    (again : ∀ x y, sizeOf x < sizeOf v → coerce c element x = .ok y → coerce c element y = .ok y) :
    coerce c (.array element) w = .ok w := by
  obtain ⟨items, ws, rfl, rfl, results⟩ := coerce_array_eq_ok_iff.1 h
  refine coerce_array_eq_ok_iff.2 ⟨ws, ws, rfl, rfl, List.map_congr_left fun y hy => ?_⟩
  obtain ⟨x, hx, read⟩ := Checked.exists_source results hy
  exact again x y (Json.sizeOf_item_lt hx) read

/-- Written keys are read as the keys that they have been, and two that have become one are one. -/
theorem coerce_map_idempotent {l : Leaf} {value : Descriptor} (key : l ∈ Leaf.keyLeaves)
    (h : coerce c (.map (.leaf l) value) v = .ok w)
    (again : ∀ x y, sizeOf x < sizeOf v → coerce c value x = .ok y → coerce c value y = .ok y) :
    coerce c (.map (.leaf l) value) w = .ok w := by
  obtain ⟨members, entries, rfl, rfl, results⟩ := coerce_map_eq_ok_iff.1 h
  have sorted := Entries.sorted_ofList entries
  refine coerce_map_eq_ok_iff.2 ⟨Entries.ofList entries, Entries.ofList entries, rfl, ?_, ?_⟩
  · exact congrArg Json.obj (Entries.ofList_of_sorted sorted)
  · refine List.map_congr_left fun entry mem => ?_
    obtain ⟨⟨text, x⟩, hm, result⟩ := Checked.exists_source results (Entries.mem_of_mem_ofList mem)
    obtain ⟨k, y, readKey, read, rfl⟩ := entryResult_eq_ok_iff.1 result
    have keyAgain := Leaf.read_keyText key (coerce_leaf_eq_ok_iff.1 readKey)
    refine entryResult_eq_ok_iff.2 ⟨k, y, coerce_leaf_eq_ok_iff.2 keyAgain, ?_, rfl⟩
    exact again x y (Json.sizeOf_member_lt hm) read

theorem lookup_object_of_fieldResult {fields : List Field} {g : Field → Option (Checked Json)}
    {parts : List (Option (String × Json))} (names : (fields.map Member.name).Nodup)
    (results : (fields.map fun f => fieldResult f (g f)) = parts.map .ok) {f : Field} (hf : f ∈ fields)
    {part : Option (String × Json)} (own : fieldResult f (g f) = .ok part) :
    (Entries.ofList (parts.filterMap id)).lookup f.name = part.map Prod.snd := by
  have listed {v : Json} (mem : (f.name, v) ∈ parts.filterMap id) : part = some (f.name, v) := by
    obtain ⟨other, mem, rfl⟩ := List.mem_filterMap.1 mem
    obtain ⟨f', hf', result⟩ := Checked.exists_source results mem
    have name : f'.name = f.name := by
      rcases fieldResult_eq_ok_iff.1 result with ⟨_, -, e⟩ | ⟨_, -, -, e⟩ | ⟨-, -, -, e⟩
      · exact (Prod.mk.inj (Option.some.inj e)).1
      · exact (Prod.mk.inj (Option.some.inj e)).1
      · cases e
    obtain rfl := List.inj_on_of_nodup_map names hf' hf name
    exact Except.ok.inj (own.symm.trans result)
  obtain ⟨part', mem, result⟩ := Checked.exists_result results hf
  obtain rfl := Except.ok.inj (own.symm.trans result)
  cases part with
  | none => exact Entries.lookup_ofList_eq_none fun v mem => by cases listed mem
  | some m =>
      obtain ⟨name, v⟩ := m
      have entry : (name, v) ∈ parts.filterMap id := List.mem_filterMap.2 ⟨_, mem, rfl⟩
      obtain rfl : name = f.name := by
        rcases fieldResult_eq_ok_iff.1 own with ⟨_, -, e⟩ | ⟨_, -, -, e⟩ | ⟨-, -, -, e⟩
        · exact (Prod.mk.inj (Option.some.inj e)).1.symm
        · exact (Prod.mk.inj (Option.some.inj e)).1.symm
        · cases e
      refine Entries.lookup_ofList_of_unique entry fun other mem => ?_
      exact (Prod.mk.inj (Option.some.inj (listed mem))).2.symm

/-- Each field finds in the object what it has put there: a value of its type, its default, which its
type reads as it is, or nothing. -/
theorem coerceFields_idempotent {fields : List Field} (names : (fields.map Member.name).Nodup)
    (fallbacks : ∀ f ∈ fields, ∀ fallback, f.type.defaultValue? = some fallback →
      coerce c f.type fallback = .ok fallback)
    (h : coerceFields c fields v = .ok w)
    (again : ∀ f ∈ fields, ∀ x y, sizeOf x < sizeOf v → coerce c f.type x = .ok y →
      coerce c f.type y = .ok y) : coerceFields c fields w = .ok w := by
  obtain ⟨members, parts, rfl, rfl, results⟩ := coerceFields_eq_ok_iff.1 h
  refine coerceFields_eq_ok_iff.2 ⟨_, parts, rfl, rfl, ?_⟩
  rw [← results]
  refine List.map_congr_left fun f hf => ?_
  obtain ⟨part, -, own⟩ := Checked.exists_result results hf
  rw [lookup_object_of_fieldResult names results hf own, own]
  refine fieldResult_eq_ok_iff.2 ?_
  rcases fieldResult_eq_ok_iff.1 own with ⟨y, read, rfl⟩ | ⟨y, -, value, rfl⟩ |
    ⟨-, none, optional, rfl⟩
  · obtain ⟨x, found, read⟩ := Option.map_eq_some_iff.1 read
    have same := again f hf x y (Json.sizeOf_lookup_lt found) read
    exact .inl ⟨y, congrArg some same, rfl⟩
  · exact .inl ⟨y, congrArg some (fallbacks f hf y value), rfl⟩
  · exact .inr (.inr ⟨rfl, none, optional, rfl⟩)

end results

/-! ### All types -/

/-- What coercion gives at a stable type it gives again when it reads that.  The induction goes along the
recursion of coercion: the parts of a list or object are smaller than the value, and under a wrapper the
type is. -/
theorem coerce_idempotent {c : Catalog} {ty : Descriptor} (stable : ty.Stable c) {v w : Json}
    (h : ty.coerce c v = .ok w) : ty.coerce c w = .ok w := by
  have fields {fields : List Field} (declares : ty.fieldsOf? c = some fields)
      (h : coerceFields c fields v = .ok w) : coerceFields c fields w = .ok w := by
    refine coerceFields_idempotent (stable.names ty fields .refl declares)
      (stable.fallbacks ty fields .refl declares) h ?_
    intro f hf x y smaller read
    exact coerce_idempotent (stable.part (type_mem_parts declares hf)) read
  match ty with
  | .leaf l =>
      have read := coerce_leaf_eq_ok_iff.1 h
      exact coerce_leaf_eq_ok_iff.2 (Leaf.read_of_read (stable.leaves l .refl) read)
  | .optional inner =>
      have part := stable.part (List.mem_singleton_self inner)
      exact coerce_nullable_idempotent rfl part h (coerce_idempotent part)
  | .withDefault inner fallback =>
      have part := stable.part (List.mem_singleton_self inner)
      exact coerce_withDefault_idempotent stable h (coerce_idempotent part)
  | .constrained inner con =>
      have part := stable.part (List.mem_singleton_self inner)
      obtain ⟨read, satisfied⟩ := coerce_constrained_eq_ok_iff.1 h
      exact coerce_constrained_eq_ok_iff.2 ⟨coerce_idempotent part read, satisfied⟩
  | .sum left right =>
      obtain ⟨inner, hn, part⟩ := stable.nullable
      have smaller := sizeOf_lt_of_nullableInner? hn
      exact coerce_nullable_idempotent hn part h (coerce_idempotent part)
  | .struct id =>
      obtain ⟨d, found, read⟩ := coerce_struct_eq_ok_iff.1 h
      exact coerce_struct_eq_ok_iff.2 ⟨d, found, fields (fieldsOf?_of_structOf? found) read⟩
  | .recursive id =>
      obtain ⟨d, found, read⟩ := coerce_recursive_eq_ok_iff.1 h
      exact coerce_recursive_eq_ok_iff.2 ⟨d, found, fields (fieldsOf?_of_structOf? found) read⟩
  | .array element =>
      have part := stable.part (List.mem_singleton_self element)
      exact coerce_array_idempotent h fun x y smaller read => coerce_idempotent part read
  | .map key value =>
      have part := stable.part (List.mem_singleton_self value)
      obtain ⟨l, known, rfl⟩ := stable.keys key value .refl
      exact coerce_map_idempotent known h fun x y smaller read => coerce_idempotent part read
  | .record fieldList =>
      rw [coerce_record] at h ⊢
      exact fields rfl h
termination_by (sizeOf v, sizeOf ty)

/-! ### Lights along a street -/

/-- A lamp with its shade, the hours in which it is on, and the next lamp. -/
def lamp : StructDef where
  origin := "street::Lamp"
  schemaName := none
  description := none
  fields := [⟨"hours", .map (.leaf .integer) (.leaf .boolean), none⟩, ⟨"id", .leaf .uuid, none⟩,
    ⟨"next", .sum (.leaf .null) (.recursive (some 0)), none⟩,
    ⟨"shade", .constrained (.withDefault (.leaf .string) (.str "amber")) (.length 1 none), none⟩]

/-- The catalog of lamps. -/
def street : Catalog := ⟨[lamp]⟩

/-- All that a lamp reaches. -/
def lampTypes : List Descriptor := [.struct 0, .recursive (some 0)] ++ lamp.fields.map Member.type ++
  [.leaf .boolean, .withDefault (.leaf .string) (.str "amber"), .leaf .string]

theorem mem_lampTypes {s : Descriptor} (h : (struct 0).Reaches street s) : s ∈ lampTypes := by
  have fields : (struct 0).fieldsOf? street = some lamp.fields := rfl
  have again : (recursive (some 0)).fieldsOf? street = some lamp.fields := rfl
  have absent : (leaf .null).isAbsence = true := rfl
  have present : (recursive (some 0)).isAbsence = false := rfl
  have closed : ∀ t ∈ lampTypes, t.parts street ⊆ lampTypes := by
    simp [lampTypes, fields, again, absent, present, lamp, parts]
  induction h with
  | refl => exact List.mem_cons_self
  | tail _ step ih => exact closed _ ih step

/-- The wrappers, lists and leaves that a lamp reaches, one by one. -/
theorem lamp_reaches {s : Descriptor} (h : (struct 0).Reaches street s) :
    s = .struct 0 ∨ s = .recursive (some 0) ∨ s = .map (.leaf .integer) (.leaf .boolean) ∨
      s = .leaf .uuid ∨ s = .sum (.leaf .null) (.recursive (some 0)) ∨
      s = .constrained (.withDefault (.leaf .string) (.str "amber")) (.length 1 none) ∨
      s = .leaf .boolean ∨ s = .withDefault (.leaf .string) (.str "amber") ∨ s = .leaf .string := by
  simpa [lampTypes, lamp] using mem_lampTypes h

theorem fields_of_lamp_reaches {s : Descriptor} (h : (struct 0).Reaches street s) {fields : List Field}
    (declares : s.fieldsOf? street = some fields) : fields = lamp.fields := by
  rcases lamp_reaches h with rfl | rfl | rfl | rfl | rfl | rfl | rfl | rfl | rfl <;> cases declares <;>
    rfl

theorem coerce_shade : coerce street (.withDefault (.leaf .string) (.str "amber")) (.str "amber") =
    .ok (.str "amber") :=
  coerce_withDefault_eq_ok_iff.2 (.inr ⟨by simp, coerce_leaf_eq_ok_iff.2 rfl⟩)

theorem lamp_stable : (struct 0).Stable street where
  leaves l h := by
    have known := lamp_reaches h
    simp only [reduceCtorEq, leaf.injEq, false_or] at known
    rcases known with rfl | rfl | rfl <;> simp [Leaf.builtin]
  names s fields h declares := by
    rw [fields_of_lamp_reaches h declares]
    decide
  sums left right h := by
    have known := lamp_reaches h
    simp only [reduceCtorEq, sum.injEq, false_or, or_false] at known
    obtain ⟨rfl, rfl⟩ := known
    rfl
  keys key value h := by
    have known := lamp_reaches h
    simp only [reduceCtorEq, map.injEq, false_or, or_false] at known
    exact ⟨.integer, by simp [Leaf.keyLeaves], known.1⟩
  defaults inner fallback h := by
    have known := lamp_reaches h
    simp only [reduceCtorEq, withDefault.injEq, false_or, or_false] at known
    obtain ⟨rfl, rfl⟩ := known
    exact ⟨rfl, .inr (coerce_leaf_eq_ok_iff.2 rfl)⟩
  fallbacks s fields h declares f mem fallback value := by
    rw [fields_of_lamp_reaches h declares, lamp] at mem
    simp only [List.mem_cons, List.not_mem_nil, or_false] at mem
    rcases mem with rfl | rfl | rfl | rfl <;> cases value
    exact coerce_constrained_eq_ok_iff.2 ⟨coerce_shade, .inl rfl⟩

/-- A lamp whose hours are written in two ways, of which the later counts, with digits in upper case, an
empty text for no next lamp and no shade. -/
theorem coerce_lamp : (struct 0).coerce street (.obj [
      ("hours", .obj [(" 7", .str "no"), ("+7", .str "yes")]),
      ("id", .str "0123ABCD-89ab-CDEF-0123-456789ABCDEF"), ("next", .str "")]) =
    .ok (.obj [("hours", .obj [("7", .bool true)]),
      ("id", .str "0123abcd-89ab-cdef-0123-456789abcdef"), ("next", .null),
      ("shade", .str "amber")]) := by
  have found : street.find? 0 = some lamp := rfl
  have hours : coerce street (.map (.leaf .integer) (.leaf .boolean))
      (.obj [(" 7", .str "no"), ("+7", .str "yes")]) = .ok (.obj [("7", .bool true)]) := by
    simp only [coerce_map, coerce_leaf, List.map_cons, List.map_nil]
    rfl
  have id : Leaf.uuid.read (.str "0123ABCD-89ab-CDEF-0123-456789ABCDEF") =
      .ok (.str "0123abcd-89ab-cdef-0123-456789abcdef") := rfl
  have next : coerce street (.sum (.leaf .null) (.recursive (some 0))) (.str "") = .ok .null := by
    have inner : (sum (.leaf .null) (.recursive (some 0))).nullableInner? =
        some (.recursive (some 0)) := rfl
    rw [coerce_nullable inner]
    rfl
  simp only [coerce_struct, found, lamp, coerceFields_obj, Entries.lookup_cons, List.lookup_nil,
    List.map_cons, List.map_nil, String.reduceEq, if_true, if_false, Option.map_some, Option.map_none,
    coerce_leaf, hours, id, next]
  rfl

theorem coerce_idempotent_lamp : (struct 0).coerce street (.obj [
      ("hours", .obj [("7", .bool true)]), ("id", .str "0123abcd-89ab-cdef-0123-456789abcdef"),
      ("next", .null), ("shade", .str "amber")]) =
    .ok (.obj [("hours", .obj [("7", .bool true)]),
      ("id", .str "0123abcd-89ab-cdef-0123-456789abcdef"), ("next", .null),
      ("shade", .str "amber")]) :=
  coerce_idempotent lamp_stable coerce_lamp

end Descriptor
end ApiContract
