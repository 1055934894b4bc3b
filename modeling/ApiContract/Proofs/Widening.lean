import ApiContract.Proofs.Inhabitation
import ApiContract.Proofs.Likeness

/-! # Widening a type is backward compatible

A type is widened by wrapping parts of it: a part becomes optional, gets a default, or, if it must be
present, becomes one side of a sum (`Descriptor.Widens`).  What stands under a constraint stays as it is,
since a constraint on a value says nothing of what a wider type makes of it.

Whatever a type reads its widenings read as well (`Descriptor.coerce_of_widens`), although not always as
the same value.  Two facts carry the wrappers.  No part becomes required, so what could be left out still
can (`Descriptor.Widens.isRequired`).  An empty text that has stood for no value may no longer do so, but
only because it has become a value of the part, and then the part reads it
(`Descriptor.Widens.reads_empty`). -/

namespace ApiContract

namespace Descriptor

/-- Types over built-in leaves with no constraint where the empty text may be read. -/
def Unguarded : Descriptor → Prop
  | .leaf l => l ∈ Leaf.builtin
  | .optional inner | .withDefault inner _ => inner.Unguarded
  | .constrained _ _ => False
  | .sum left right => left.Unguarded ∧ right.Unguarded
  | _ => True

/-- The second type is the first with wrappers around some of its parts.  Of two relations between structs,
`kept` is for structs with no wrapper in them, which may stand under constraints, and `widened` for the
others. -/
inductive Widens (kept widened : StructId → StructId → Prop) : Descriptor → Descriptor → Prop
  | unchanged {ty other : Descriptor} (same : Alike kept ty other) : Widens kept widened ty other
  | asOptional {ty wider : Descriptor} (present : ty.isAbsence = false)
    (part : Widens kept widened ty wider) : Widens kept widened ty (.optional wider)
  | asDefault {ty wider : Descriptor} (value : Json) (present : ty.isAbsence = false)
    (part : Widens kept widened ty wider) : Widens kept widened ty (.withDefault wider value)
  | asLeft {ty wider other : Descriptor} (required : ty.isRequired = true) (free : other.Unguarded)
    (part : Widens kept widened ty wider) : Widens kept widened ty (.sum wider other)
  | asRight {ty wider other : Descriptor} (required : ty.isRequired = true) (free : other.Unguarded)
    (part : Widens kept widened ty wider) : Widens kept widened ty (.sum other wider)
  | optional {inner wider : Descriptor} (part : Widens kept widened inner wider) :
    Widens kept widened (.optional inner) (.optional wider)
  | withDefault {inner wider : Descriptor} (value : Json) (part : Widens kept widened inner wider) :
    Widens kept widened (.withDefault inner value) (.withDefault wider value)
  | sum {left right widerLeft widerRight : Descriptor} (first : Widens kept widened left widerLeft)
    (second : Widens kept widened right widerRight) :
    Widens kept widened (.sum left right) (.sum widerLeft widerRight)
  | struct {id other : StructId} (h : widened id other) :
    Widens kept widened (.struct id) (.struct other)
  | recursive {id other : StructId} (h : widened id other) :
    Widens kept widened (.recursive (some id)) (.recursive (some other))
  | array {element wider : Descriptor} (part : Widens kept widened element wider) :
    Widens kept widened (.array element) (.array wider)
  | map {key value widerKey widerValue : Descriptor} (keys : Widens kept widened key widerKey)
    (values : Widens kept widened value widerValue) :
    Widens kept widened (.map key value) (.map widerKey widerValue)
  | record {fields others : List Field} (names : others.map Member.name = fields.map Member.name)
    (types : ∀ (i : Nat) (f g : Field), fields[i]? = some f → others[i]? = some g →
      Widens kept widened f.type g.type) : Widens kept widened (.record fields) (.record others)

end Descriptor

/-- The structs that are kept are alike, and the fields of those that are widened have wider types. -/
structure Catalog.WidensTo (c wider : Catalog) (kept widened : StructId → StructId → Prop) : Prop where
  mirrors : c.Mirrors wider kept
  fields : ∀ i j, widened i j → ∀ d, c.find? i = some d →
    ∃ e, wider.find? j = some e ∧ Descriptor.Fieldwise (Descriptor.Widens kept widened) d.fields e.fields

namespace Descriptor

/-! ### Reading at sums -/

section sums
variable {c : Catalog} {left right : Descriptor} {v : Json}

theorem reads_sum_of_left (present : left.isAbsence = false) (read : ∃ w, coerce c left v = .ok w) :
    ∃ w, coerce c (.sum left right) v = .ok w := by
  cases other : right.isAbsence with
  | true =>
      have admits : (sum left right).nullableInner? = some left := by rw [nullableInner?, if_pos other]
      exact (coerce_nullable_succeeds_iff admits).2 (.inr read)
  | false =>
      have general := nullableInner?_sum_of_not_isAbsence present other
      exact (coerce_sum_succeeds_iff general).2 (.inl read)

theorem reads_sum_of_right (present : right.isAbsence = false)
    (read : ∃ w, coerce c right v = .ok w) : ∃ w, coerce c (.sum left right) v = .ok w := by
  cases other : left.isAbsence with
  | true =>
      have admits : (sum left right).nullableInner? = some right := by
        rw [nullableInner?, present, if_neg Bool.false_ne_true, if_pos other]
      exact (coerce_nullable_succeeds_iff admits).2 (.inr read)
  | false =>
      have general := nullableInner?_sum_of_not_isAbsence other present
      exact (coerce_sum_succeeds_iff general).2 (.inr read)

end sums

/-! ### The empty text -/

theorem read_empty_of_isTextual {l : Leaf} (known : l ∈ Leaf.builtin) (textual : l.isTextual = true) :
    ∃ w, l.read (.str "") = .ok w := by
  simp only [Leaf.builtin, List.mem_cons, List.not_mem_nil, or_false] at known
  rcases known with rfl | rfl | rfl | rfl | rfl | rfl | rfl | rfl | rfl
  all_goals first
    | exact ⟨_, rfl⟩
    | exact absurd textual (by decide)

/-- The empty text is read where it is a value, if no constraint refuses it. -/
theorem Unguarded.reads_empty (c : Catalog) : ∀ ty : Descriptor, ty.Unguarded → ty.isTextual = true →
    ∃ w, coerce c ty (.str "") = .ok w
  | .leaf l, known, textual => by
      obtain ⟨w, read⟩ := read_empty_of_isTextual known textual
      exact ⟨w, coerce_leaf_eq_ok_iff.2 read⟩
  | .optional inner, free, textual =>
      (coerce_nullable_succeeds_iff rfl).2 (.inr (Unguarded.reads_empty c inner free textual))
  | .withDefault inner _, free, textual =>
      coerce_withDefault_succeeds_iff.2 (.inr (Unguarded.reads_empty c inner free textual))
  | .sum left right, free, textual => by
      rw [isTextual, Bool.or_eq_true] at textual
      rcases textual with textual | textual
      · exact reads_sum_of_left (isAbsence_of_isTextual textual)
          (Unguarded.reads_empty c left free.1 textual)
      · exact reads_sum_of_right (isAbsence_of_isTextual textual)
          (Unguarded.reads_empty c right free.2 textual)

section widens
variable {kept widened : StructId → StructId → Prop} {ty wider : Descriptor}

theorem Widens.reads_empty (d : Catalog) (h : Widens kept widened ty wider)
    (none : ty.isTextual = false) (textual : wider.isTextual = true) :
    ∃ w, coerce d wider (.str "") = .ok w := by
  have sides {left right : Descriptor} (textual : (Descriptor.sum left right).isTextual = true)
      (first : left.isTextual = true → ∃ w, coerce d left (.str "") = .ok w)
      (second : right.isTextual = true → ∃ w, coerce d right (.str "") = .ok w) :
      ∃ w, coerce d (.sum left right) (.str "") = .ok w := by
    rw [isTextual, Bool.or_eq_true] at textual
    rcases textual with textual | textual
    · exact reads_sum_of_left (isAbsence_of_isTextual textual) (first textual)
    · exact reads_sum_of_right (isAbsence_of_isTextual textual) (second textual)
  induction h with
  | unchanged same =>
      rw [same.isTextual_eq, none] at textual
      cases textual
  | asOptional _ _ ih | optional _ ih =>
      exact (coerce_nullable_succeeds_iff rfl).2 (.inr (ih none textual))
  | asDefault _ _ _ ih | withDefault _ _ ih =>
      exact coerce_withDefault_succeeds_iff.2 (.inr (ih none textual))
  | asLeft _ free _ ih => exact sides textual (ih none) (free.reads_empty d _)
  | asRight _ free _ ih => exact sides textual (free.reads_empty d _) (ih none)
  | sum _ _ first second =>
      rw [isTextual, Bool.or_eq_false_iff] at none
      exact sides textual (first none.1) (second none.2)
  | _ => cases textual

/-- What stands for no value still does, or it has become a value that is read. -/
theorem Widens.meansNull (d : Catalog) (h : Widens kept widened ty wider) {v : Json}
    (null : ty.meansNull v = true) :
    wider.meansNull v = true ∨ ∃ w, coerce d wider v = .ok w := by
  cases v with
  | null => exact .inl rfl
  | str s =>
      simp only [Descriptor.meansNull, Bool.and_eq_true, Bool.not_eq_true', String.isEmpty_iff]
        at null ⊢
      obtain ⟨rfl, none⟩ := null
      cases textual : wider.isTextual with
      | false => exact .inl ⟨rfl, rfl⟩
      | true => exact .inr (h.reads_empty d none textual)
  | _ => cases null

/-! ### What can be told without reading -/

theorem Widens.isAbsence_eq (h : Widens kept widened ty wider) : wider.isAbsence = ty.isAbsence := by
  cases h with
  | unchanged same => exact same.isAbsence_eq
  | asOptional present | asDefault _ present => exact present.symm
  | asLeft required | asRight required => exact (isAbsence_of_isRequired required).symm
  | _ => rfl

theorem Widens.exists_nullableInner? {left right widerLeft widerRight inner : Descriptor}
    (first : Widens kept widened left widerLeft) (second : Widens kept widened right widerRight)
    (h : (Descriptor.sum left right).nullableInner? = some inner) : ∃ widerInner,
      (Descriptor.sum widerLeft widerRight).nullableInner? = some widerInner ∧
        Widens kept widened inner widerInner := by
  rw [nullableInner?] at h ⊢
  rw [first.isAbsence_eq, second.isAbsence_eq]
  split at h
  · next absent =>
    rw [if_pos absent]
    exact ⟨widerLeft, rfl, Option.some.inj h ▸ first⟩
  · next present =>
    split at h
    · next absent =>
      rw [if_neg present, if_pos absent]
      exact ⟨widerRight, rfl, Option.some.inj h ▸ second⟩
    · cases h

theorem Widens.isRequired (h : Widens kept widened ty wider) (required : wider.isRequired = true) :
    ty.isRequired = true := by
  cases h with
  | unchanged same => rwa [same.isRequired_eq] at required
  | asLeft own | asRight own => exact own
  | asOptional | asDefault | optional | withDefault => cases required
  | @sum left right _ _ first second =>
      cases hn : (Descriptor.sum left right).nullableInner? with
      | none => exact isRequired_sum hn
      | some inner =>
          obtain ⟨widerInner, admits, -⟩ := first.exists_nullableInner? second hn
          rw [isRequired_nullable admits] at required
          cases required
  | _ => rfl

end widens

/-! ### Reading the parts -/

section parts
variable {kept widened : StructId → StructId → Prop} {c d : Catalog} {v : Json}

theorem reads_nullable_of_widens {ty other inner wider : Descriptor}
    (admits : ty.nullableInner? = some inner) (otherAdmits : other.nullableInner? = some wider)
    (h : Widens kept widened inner wider)
    (part : (∃ w, coerce c inner v = .ok w) → ∃ w, coerce d wider v = .ok w)
    (read : ∃ w, coerce c ty v = .ok w) : ∃ w, coerce d other v = .ok w := by
  rw [coerce_nullable_succeeds_iff otherAdmits]
  rcases (coerce_nullable_succeeds_iff admits).1 read with null | read
  · exact h.meansNull d null
  · exact .inr (part read)

theorem reads_array_of_widens {element wider : Descriptor}
    (parts : ∀ x, sizeOf x < sizeOf v → (∃ w, coerce c element x = .ok w) →
      ∃ w, coerce d wider x = .ok w)
    (read : ∃ w, coerce c (.array element) v = .ok w) : ∃ w, coerce d (.array wider) v = .ok w := by
  obtain ⟨w, h⟩ := read
  obtain ⟨items, _, rfl, -, -⟩ := coerce_array_eq_ok_iff.1 h
  rw [coerce_array_succeeds_iff]
  intro x hx
  exact parts x (Json.sizeOf_item_lt hx) (coerce_array_succeeds_iff.1 ⟨w, h⟩ x hx)

theorem reads_map_of_widens {key value widerKey widerValue : Descriptor}
    (keys : ∀ x, sizeOf x < sizeOf v → (∃ w, coerce c key x = .ok w) →
      ∃ w, coerce d widerKey x = .ok w)
    (values : ∀ x, sizeOf x < sizeOf v → (∃ w, coerce c value x = .ok w) →
      ∃ w, coerce d widerValue x = .ok w)
    (read : ∃ w, coerce c (.map key value) v = .ok w) :
    ∃ w, coerce d (.map widerKey widerValue) v = .ok w := by
  obtain ⟨w, h⟩ := read
  obtain ⟨members, _, rfl, -, -⟩ := coerce_map_eq_ok_iff.1 h
  rw [coerce_map_succeeds_iff]
  intro m hm
  obtain ⟨readKey, readValue⟩ := coerce_map_succeeds_iff.1 ⟨w, h⟩ m hm
  exact ⟨keys _ (Json.sizeOf_key_lt hm) readKey, values _ (Json.sizeOf_member_lt hm) readValue⟩

theorem reads_fields_of_widens {fields others : List Field}
    (widen : Fieldwise (Widens kept widened) fields others)
    (parts : ∀ f g : Field, Widens kept widened f.type g.type → ∀ x, sizeOf x < sizeOf v →
      (∃ w, coerce c f.type x = .ok w) → ∃ w, coerce d g.type x = .ok w)
    (read : ∃ w, coerceFields c fields v = .ok w) : ∃ w, coerceFields d others v = .ok w := by
  obtain ⟨w, h⟩ := read
  obtain ⟨members, _, rfl, -, -⟩ := coerceFields_eq_ok_iff.1 h
  rw [coerceFields_succeeds_iff]
  intro g hg
  obtain ⟨i, place⟩ := List.mem_iff_getElem?.1 hg
  obtain ⟨f, hf, name, wide⟩ := widen.exists_field place
  have own := coerceFields_succeeds_iff.1 ⟨w, h⟩ f (List.mem_of_getElem? hf)
  rw [← name]
  cases found : members.lookup f.name with
  | some x =>
      rw [found] at own
      exact parts f g wide x (Json.sizeOf_lookup_lt found) own
  | none =>
      rw [found] at own
      have omitted : f.type.isRequired = false := by
        cases fallback : f.type.defaultValue? with
        | some value => exact isRequired_of_defaultValue? f.type fallback
        | none => exact own fallback
      intro _
      refine Bool.eq_false_iff.2 fun required => ?_
      rw [wide.isRequired required] at omitted
      cases omitted

end parts

/-! ### All types -/

/-- Whatever a type reads its widenings read.  The induction goes along the recursion of coercion at the
wider type: the parts of a list or object are smaller than the value, and under a wrapper the type is. -/
theorem coerce_of_widens {c d : Catalog} {kept widened : StructId → StructId → Prop}
    (catalogs : c.WidensTo d kept widened) {ty wider : Descriptor} (h : Widens kept widened ty wider)
    {v : Json} (read : ∃ w, coerce c ty v = .ok w) : ∃ w, coerce d wider v = .ok w := by
  have fields {fields others : List Field} (widen : Fieldwise (Widens kept widened) fields others)
      (read : ∃ w, coerceFields c fields v = .ok w) : ∃ w, coerceFields d others v = .ok w :=
    reads_fields_of_widens widen (fun f g wide x smaller => coerce_of_widens catalogs wide) read
  have structs {i j : StructId} (h : widened i j) (read : ∃ w, coerce c (.struct i) v = .ok w) :
      ∃ w, coerce d (.struct j) v = .ok w := by
    obtain ⟨_, result⟩ := read
    obtain ⟨def₁, found, own⟩ := coerce_struct_eq_ok_iff.1 result
    obtain ⟨def₂, otherFound, widen⟩ := catalogs.fields i j h def₁ found
    obtain ⟨w, wide⟩ := fields widen ⟨_, own⟩
    exact ⟨w, coerce_struct_eq_ok_iff.2 ⟨def₂, otherFound, wide⟩⟩
  cases h with
  | unchanged same => rwa [coerce_of_alike catalogs.mirrors same]
  | asOptional _ part =>
      exact (coerce_nullable_succeeds_iff rfl).2 (.inr (coerce_of_widens catalogs part read))
  | asDefault _ _ part =>
      exact coerce_withDefault_succeeds_iff.2 (.inr (coerce_of_widens catalogs part read))
  | asLeft required _ part =>
      have present := part.isAbsence_eq.trans (isAbsence_of_isRequired required)
      exact reads_sum_of_left present (coerce_of_widens catalogs part read)
  | asRight required _ part =>
      have present := part.isAbsence_eq.trans (isAbsence_of_isRequired required)
      exact reads_sum_of_right present (coerce_of_widens catalogs part read)
  | optional part => exact reads_nullable_of_widens rfl rfl part (coerce_of_widens catalogs part) read
  | withDefault value part =>
      rw [coerce_withDefault_succeeds_iff] at read ⊢
      exact read.imp_right (coerce_of_widens catalogs part)
  | @sum left right widerLeft widerRight first second =>
      cases hn : (Descriptor.sum left right).nullableInner? with
      | some inner =>
          obtain ⟨widerInner, admits, part⟩ := first.exists_nullableInner? second hn
          have smaller := sizeOf_lt_of_nullableInner? admits
          exact reads_nullable_of_widens hn admits part (coerce_of_widens catalogs part) read
      | none =>
          obtain ⟨hl, hr⟩ := nullableInner?_sum_eq_none hn
          rcases (coerce_sum_succeeds_iff hn).1 read with read | read
          · exact reads_sum_of_left (first.isAbsence_eq.trans hl) (coerce_of_widens catalogs first read)
          · exact reads_sum_of_right (second.isAbsence_eq.trans hr)
              (coerce_of_widens catalogs second read)
  | struct h => exact structs h read
  | recursive h =>
      rw [coerce_recursive_some] at read ⊢
      exact structs h read
  | array part =>
      exact reads_array_of_widens (fun x smaller => coerce_of_widens catalogs part) read
  | map keys values =>
      exact reads_map_of_widens (fun x smaller => coerce_of_widens catalogs keys)
        (fun x smaller => coerce_of_widens catalogs values) read
  | record names types =>
      simp only [coerce_record] at read ⊢
      exact fields ⟨names, types⟩ read
termination_by (sizeOf v, sizeOf wider)

/-! ### A wider house -/

/-- A stay that may be without a first day or guests, under an identifier of any form, before another stay
or anything else.  The constraint on the number of nights stays as it is. -/
def wideStay : StructDef := { stay with
  fields := [⟨"from", .optional (.leaf .date), none⟩, ⟨"id", .sum (.leaf .uuid) (.leaf .string), none⟩,
    ⟨"guests", .withDefault (.constrained (.array (.leaf .string)) (.length 1 none)) (.arr []), none⟩,
    ⟨"nights", .constrained (.withDefault (.leaf .integer) (.ofInt 0)) (.oneOf [.ofInt 1, .ofInt 2]),
      none⟩,
    ⟨"next", .optional (.sum (.leaf .any) (.recursive (some 0))), none⟩] }

/-- The catalog of wider stays. -/
def wideHouse : Catalog := ⟨[wideStay]⟩

theorem house_widensTo : house.WidensTo wideHouse (fun _ _ => False) fun i j => i = 0 ∧ j = 0 where
  mirrors _ _ none := none.elim
  fields := by
    rintro i j ⟨rfl, rfl⟩ d found
    cases found
    refine ⟨wideStay, rfl, rfl, ?_⟩
    intro i f g hf hg
    have leaf (l : Leaf) : Alike (fun _ _ => False) (.leaf l) (.leaf l) := .leaf l
    rcases i with _ | _ | _ | _ | _ | i <;> cases hf <;> cases hg
    · exact .asOptional rfl (.unchanged (leaf _))
    · exact .asLeft rfl (by simp [Unguarded, Leaf.builtin]) (.unchanged (leaf _))
    · exact .asDefault _ rfl (.unchanged (.constrained _ (.array (leaf _))))
    · exact .unchanged (.constrained _ (.withDefault _ (leaf _)))
    · exact .optional (.asRight rfl (by simp [Unguarded, Leaf.builtin]) (.recursive ⟨rfl, rfl⟩))

/-- The wider house reads the stay as well, although the empty text after it, which has stood for no next
stay, is now a value. -/
theorem coerce_of_widens_stay : ∃ w, (struct 0).coerce wideHouse (.obj [("color", .str "red"),
      ("from", .str "2024-02-29"), ("guests", .arr [.str "Ada"]),
      ("id", .str "0123ABCD-89ab-CDEF-0123-456789ABCDEF"), ("next", .str "")]) = .ok w :=
  coerce_of_widens house_widensTo (.struct ⟨rfl, rfl⟩) ⟨_, coerce_stay⟩

end Descriptor
end ApiContract
