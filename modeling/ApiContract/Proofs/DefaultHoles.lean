import ApiContract.Proofs.Idempotence
import ApiContract.Proofs.Parameter

/-! # Null behind a default

A default takes the place of null before the type behind it is read.  That type may still make null of
something else: a type that admits null does so of the empty text, which on the wire stands for no value,
and so does the leaf of absence.  Wrappers and alternatives hand this on.

`Descriptor.ReadsNull` lists the ways, so that a type with a default gives null exactly for the values
with such a way (`Descriptor.withDefault_null_iff`).  With built-in leaves this is nothing but the empty
text.  A parameter whose type has the default is null just then, although its default is not
(`Parameter.limit_retrieves_null`). -/

namespace ApiContract
namespace Descriptor

/-- How a type makes null of a value that is not null. -/
inductive ReadsNull (c : Catalog) (v : Json) : Descriptor → Prop
  /-- A leaf reads it so. -/
  | leaf {l : Leaf} (read : l.read v = .ok .null) : ReadsNull c v (.leaf l)
  /-- It stands for no value. -/
  | blank {ty inner : Descriptor} (nullable : ty.nullableInner? = some inner)
      (none : inner.meansNull v = true) : ReadsNull c v ty
  /-- The type behind null makes null of it. -/
  | behind {ty inner : Descriptor} (nullable : ty.nullableInner? = some inner)
      (inside : ReadsNull c v inner) : ReadsNull c v ty
  /-- The default does not apply. -/
  | withDefault {inner : Descriptor} {fallback : Json} (inside : ReadsNull c v inner) :
      ReadsNull c v (.withDefault inner fallback)
  /-- Null satisfies the constraint, or is exempt from it. -/
  | constrained {inner : Descriptor} {con : Constraint} (inside : ReadsNull c v inner)
      (passes : con.check .null = .ok () ∨ inner.isRequired = false) :
      ReadsNull c v (.constrained inner con)
  /-- The first alternative makes null of it. -/
  | left {left right : Descriptor} (general : (sum left right).nullableInner? = none)
      (inside : ReadsNull c v left) : ReadsNull c v (.sum left right)
  /-- The first alternative refuses it and the second makes null of it. -/
  | right {left right : Descriptor} (general : (sum left right).nullableInner? = none)
      (refused : ∀ w, coerce c left v ≠ .ok w) (inside : ReadsNull c v right) :
      ReadsNull c v (.sum left right)

variable {c : Catalog} {v : Json}

theorem readsNull_nullable_iff {ty inner : Descriptor} (nullable : ty.nullableInner? = some inner) :
    ReadsNull c v ty ↔ inner.meansNull v = true ∨ ReadsNull c v inner := by
  constructor
  · intro h
    cases h with
    | leaf | withDefault | constrained => cases nullable
    | blank same none =>
        obtain rfl := Option.some.inj (nullable.symm.trans same)
        exact .inl none
    | behind same inside =>
        obtain rfl := Option.some.inj (nullable.symm.trans same)
        exact .inr inside
    | left general | right general => simp [nullable] at general
  · rintro (none | inside)
    · exact .blank nullable none
    · exact .behind nullable inside

theorem readsNull_sum_iff {left right : Descriptor} (general : (sum left right).nullableInner? = none) :
    ReadsNull c v (.sum left right) ↔
      ReadsNull c v left ∨ (∀ w, coerce c left v ≠ .ok w) ∧ ReadsNull c v right := by
  constructor
  · intro h
    cases h with
    | blank same | behind same => simp [general] at same
    | left _ inside => exact .inl inside
    | right _ refused inside => exact .inr ⟨refused, inside⟩
  · rintro (inside | ⟨refused, inside⟩)
    · exact .left general inside
    · exact .right general refused inside

theorem not_readsNull_of_isComposite {ty : Descriptor} (composite : ty.isComposite = true) :
    ¬ ReadsNull c v ty := by
  intro h
  cases h with
  | blank nullable | behind nullable =>
      rcases nullableInner?_eq_some nullable with rfl | ⟨_, rfl, -⟩ | ⟨_, rfl, -⟩ <;> cases composite
  | _ => cases composite

theorem coerce_eq_null_iff (given : v ≠ .null) : ∀ ty : Descriptor,
    coerce c ty v = .ok .null ↔ ReadsNull c v ty
  | .leaf l => by
      rw [coerce_leaf_eq_ok_iff]
      refine ⟨.leaf, fun h => ?_⟩
      cases h with
      | leaf read => exact read
      | blank nullable | behind nullable => cases nullable
  | .struct _ | .recursive _ | .array _ | .map _ _ | .record _ =>
      iff_of_false (coerce_ne_null_of_isComposite rfl) (not_readsNull_of_isComposite rfl)
  | .optional inner => by
      rw [readsNull_nullable_iff rfl, coerce_nullable_eq_ok_iff rfl, coerce_eq_null_iff given inner]
      cases inner.meansNull v <;> simp
  | .withDefault inner fallback => by
      rw [coerce_withDefault_eq_ok_iff, coerce_eq_null_iff given inner]
      constructor
      · rintro (⟨null, -⟩ | ⟨-, inside⟩)
        · exact absurd null given
        · exact .withDefault inside
      · intro h
        cases h with
        | withDefault inside => exact .inr ⟨given, inside⟩
        | blank nullable | behind nullable => cases nullable
  | .constrained inner con => by
      rw [coerce_constrained_eq_ok_iff, coerce_eq_null_iff given inner]
      constructor
      · rintro ⟨inside, checked | ⟨-, exempt⟩⟩
        · exact .constrained inside (.inl checked)
        · exact .constrained inside (.inr exempt)
      · intro h
        cases h with
        | constrained inside passes => exact ⟨inside, passes.imp_right fun exempt => ⟨rfl, exempt⟩⟩
        | blank nullable | behind nullable => cases nullable
  | .sum left right => by
      cases nullable : (sum left right).nullableInner? with
      | some inner =>
          have smaller := sizeOf_lt_of_nullableInner? nullable
          rw [readsNull_nullable_iff nullable, coerce_nullable_eq_ok_iff nullable,
            coerce_eq_null_iff given inner]
          cases inner.meansNull v <;> simp
      | none =>
          rw [readsNull_sum_iff nullable, coerce_sum_eq_ok_iff nullable, coerce_eq_null_iff given left,
            coerce_eq_null_iff given right]
termination_by ty => sizeOf ty

/-! ### The empty text -/

theorem eq_empty_of_readNull (given : v ≠ .null) (h : Leaf.readNull v = .ok .null) : v = .str "" := by
  cases v with
  | null => exact absurd rfl given
  | str s =>
      rw [Leaf.readNull] at h
      split at h
      · next empty => rw [String.isEmpty_iff.1 empty]
      · cases h
  | _ => cases h

theorem eq_empty_of_meansNull {inner : Descriptor} (given : v ≠ .null)
    (none : inner.meansNull v = true) : v = .str "" := by
  cases v with
  | null => exact absurd rfl given
  | str s =>
      rw [meansNull, Bool.and_eq_true] at none
      rw [String.isEmpty_iff.1 none.1]
  | _ => cases none

/-- With built-in leaves only the empty text is read as null, other than null. -/
theorem ReadsNull.eq_empty (given : v ≠ .null) {ty : Descriptor} (h : ReadsNull c v ty)
    (known : ∀ l, ty.Reaches c (.leaf l) → l ∈ Leaf.builtin) : v = .str "" := by
  have part {ty inner : Descriptor} (known : ∀ l, ty.Reaches c (.leaf l) → l ∈ Leaf.builtin)
      (mem : inner ∈ ty.parts c) (l : Leaf) (reaches : inner.Reaches c (.leaf l)) : l ∈ Leaf.builtin :=
    known l (.head mem reaches)
  induction h with
  | @leaf l read =>
      cases Leaf.value_of_read (known l .refl) read with
      | any => exact absurd (Except.ok.inj read) given
      | null => exact eq_empty_of_readNull given read
  | blank _ none => exact eq_empty_of_meansNull given none
  | behind nullable _ ih => exact ih (part known (by rw [parts_nullable nullable]; simp))
  | withDefault _ ih | constrained _ _ ih => exact ih (part known (List.mem_singleton_self _))
  | left general _ ih | right general _ _ ih =>
      exact ih (part known (by rw [parts_sum general]; simp))

end Descriptor

/-! ### Parameters -/

namespace Parameter
variable {p : Parameter} {view : RequestView} {captures : Captures} {raw : RawValue}

theorem rawOf_ne_many_nil : ∀ texts, rawOf texts ≠ some (.many [])
  | [] | [_] | _ :: _ :: _ => by simp [rawOf]

theorem map_single_ne_many (text? : Option String) (texts : List String) :
    text?.map RawValue.single ≠ some (.many texts) := by
  cases text? <;> simp

theorem queryRaw_ne_many_nil (pairs : List (String × String)) :
    p.queryRaw pairs ≠ some (.many []) := by
  unfold queryRaw
  extract_lets members
  split
  · exact rawOf_ne_many_nil _
  · simp

theorem raw_ne_many_nil (wire : p.raw view captures = .ok (some raw)) : raw ≠ .many [] := by
  rintro rfl
  unfold Parameter.raw at wire
  split at wire
  · exact map_single_ne_many _ _ (Except.ok.inj wire)
  · cases pairs : view.pairs with
    | error err => rw [pairs] at wire; cases wire
    | ok ps =>
        rw [pairs] at wire
        exact queryRaw_ne_many_nil ps (Except.ok.inj wire)
  · exact map_single_ne_many _ _ (Except.ok.inj wire)
  · exact map_single_ne_many _ _ (Except.ok.inj wire)

theorem scalarCandidate_ne_null (text : String) (ty : Descriptor) :
    scalarCandidate text ty ≠ .null := by
  unfold scalarCandidate
  split
  · split <;> simp
  · simp

theorem candidate_ne_null (some_text : raw ≠ .many []) (ty : Descriptor) (style : Style) :
    candidate raw ty style ≠ .null := by
  unfold candidate
  split
  · simp [textList]
  · simp [textList]
  · simp [textList]
  · exact scalarCandidate_ne_null _ ty
  · next texts _ =>
    cases last : texts.getLast? with
    | none => exact absurd (by rw [List.getLast?_eq_none_iff.1 last]) some_text
    | some text => exact scalarCandidate_ne_null text ty

end Parameter

namespace Descriptor
variable {c : Catalog}

/-- A type whose default is not null gives null exactly for the values other than null that the type
behind it reads as null, of which there is but the empty text if all leaves are built-in; and a parameter
of that type is null exactly if such a value is on the wire for it. -/
theorem withDefault_null_iff {inner : Descriptor} {fallback : Json} (given : fallback ≠ .null) :
    (∀ v, coerce c (.withDefault inner fallback) v = .ok .null ↔ v ≠ .null ∧ ReadsNull c v inner) ∧
    ((∀ l, inner.Reaches c (.leaf l) → l ∈ Leaf.builtin) →
      ∀ v, coerce c (.withDefault inner fallback) v = .ok .null → v = .str "") ∧
    ∀ p : Parameter, p.type = .withDefault inner fallback → ∀ view captures,
      (p.retrieve c view captures = .ok (some .null) ↔
        ∃ raw, p.raw view captures = .ok (some raw) ∧
          ReadsNull c (candidate raw p.type p.style) inner) := by
  have read (v : Json) : coerce c (.withDefault inner fallback) v = .ok .null ↔
      v ≠ .null ∧ ReadsNull c v inner := by
    rw [coerce_withDefault_eq_ok_iff]
    constructor
    · rintro (⟨-, same⟩ | ⟨other, inside⟩)
      · exact absurd same.symm given
      · exact ⟨other, (coerce_eq_null_iff other inner).1 inside⟩
    · rintro ⟨other, inside⟩
      exact .inr ⟨other, (coerce_eq_null_iff other inner).2 inside⟩
  refine ⟨read, fun known v null => ?_, fun p typed view captures => ?_⟩
  · obtain ⟨other, inside⟩ := (read v).1 null
    exact inside.eq_empty other known
  · rw [Parameter.retrieve_eq_ok_some_iff, typed]
    constructor
    · rintro (⟨raw, wire, null⟩ | ⟨-, -, default⟩)
      · exact ⟨raw, wire, ((read _).1 null).2⟩
      · exact absurd (Option.some.inj default) given
    · rintro ⟨raw, wire, inside⟩
      have other := Parameter.candidate_ne_null (Parameter.raw_ne_many_nil wire)
        (.withDefault inner fallback) p.style
      exact .inl ⟨raw, wire, (read _).2 ⟨other, inside⟩⟩

end Descriptor

/-! ### A page size -/

namespace Parameter

/-- How many items to show: five if nothing is said. -/
def limit : Parameter :=
  ⟨"limit", .query, .withDefault (.optional (.leaf .integer)) (.ofInt 5), .form, false, none, false⟩

theorem limit_null_iff :
    Json.ofInt 5 ≠ .null ∧ ∀ v, limit.type.coerce ⟨[]⟩ v = .ok .null ↔ v = .str "" := by
  have given : Json.ofInt 5 ≠ .null := by simp [Json.ofInt, Number.ofInt?]
  obtain ⟨read, empty, -⟩ := @Descriptor.withDefault_null_iff ⟨[]⟩ (.optional (.leaf .integer)) _ given
  have known : ∀ l, (Descriptor.optional (.leaf .integer)).Reaches ⟨[]⟩ (.leaf l) →
      l ∈ Leaf.builtin := by
    intro l reaches
    obtain same | ⟨ty, mem, rest⟩ := reaches.cases_head
    · cases same
    · obtain rfl := List.mem_singleton.1 mem
      obtain same | ⟨ty, mem, -⟩ := rest.cases_head
      · cases same
        simp [Leaf.builtin]
      · cases mem
  refine ⟨given, fun v => ?_⟩
  constructor
  · exact empty known v
  · rintro rfl
    exact (read _).2 ⟨by simp, .blank rfl rfl⟩

/-- A request that names the limit and says no more, as the query string `limit=` does. -/
def unlimited : RequestView where
  pairs := .ok [("limit", "")]
  header _ := none
  cookie _ := none
  body := none

/-- That request gives the application null, not five. -/
theorem limit_retrieves_null :
    Json.ofInt 5 ≠ .null ∧
    limit.type.coerce ⟨[]⟩ (.str "") = .ok .null ∧
    limit.retrieve ⟨[]⟩ unlimited [] = .ok (some .null) := by
  have read : limit.type.coerce ⟨[]⟩ (.str "") = .ok .null := by
    rw [limit, Descriptor.coerce_withDefault, Descriptor.coerce_optional]
    rfl
  have wire : limit.raw unlimited [] = .ok (some (.single "")) := rfl
  refine ⟨by simp [Json.ofInt, Number.ofInt?], read, ?_⟩
  rw [retrieve_of_raw wire, readRaw_eq_ok_iff.2 read]
  rfl

end Parameter
end ApiContract
