import ApiContract.Parameter.Candidate
import ApiContract.Proofs.Idempotence
import ApiContract.Proofs.JsonText

/-! # Texts that spell an object

A type that wants an object takes a text that is the JSON text of an object as this object, and the text
itself is not tried again.  `Descriptor.LosesText` lists the ways in which a type reads the text and
refuses the object: these are what trying the object first costs (`Descriptor.candidate_read_iff`).

All of them begin at a leaf, for nothing else reads a text.  So only a sum that offers a leaf beside an
object can lose one; `Descriptor.search_loses_text` is such a sum. -/

namespace ApiContract

/-! ### Texts as candidates -/

theorem Json.parse?_empty : Json.parse? "" = none := rfl

theorem scalarCandidate_of_parse? {s : String} {members : List (String × Json)} {ty : Descriptor}
    (object : ty.wantsObject = true) (spelled : Json.parse? s = some (.obj members)) :
    scalarCandidate s ty = .obj members := by
  rw [scalarCandidate, if_pos object, spelled]

theorem scalarCandidate_eq_str {s : String} {ty : Descriptor}
    (plain : ty.wantsObject = true → ∀ members, Json.parse? s ≠ some (.obj members)) :
    scalarCandidate s ty = .str s := by
  unfold scalarCandidate
  split
  · next object =>
    split
    · next members spelled => exact absurd spelled (plain object members)
    · rfl
  · rfl

theorem candidate_ofTexts (d : Dict String) {ty : Descriptor} (object : ty.wantsObject = true)
    (single : ty.collectionElement? = none) (style : Style) :
    candidate (.single (Json.ofTexts d).compact) ty style = .ofTexts d := by
  rw [candidate.eq_def, single]
  exact scalarCandidate_of_parse? object (Json.parse?_compact_ofTexts d)

namespace Descriptor

/-! ### Ways to lose a text -/

/-- Whether a leaf is among the alternatives of a type. -/
def offersLeaf : Descriptor → Bool
  | .leaf _ => true
  | .optional inner | .withDefault inner _ | .constrained inner _ => inner.offersLeaf
  | .sum left right =>
    if right.isAbsence then left.offersLeaf
    else if left.isAbsence then right.offersLeaf
    else left.offersLeaf || right.offersLeaf
  | _ => false

theorem offersLeaf_nullable {ty inner : Descriptor} (nullable : ty.nullableInner? = some inner) :
    ty.offersLeaf = inner.offersLeaf := by
  rcases nullableInner?_eq_some nullable with rfl | ⟨right, rfl, hr⟩ | ⟨left, rfl, hr, hl⟩
  · rfl
  · rw [offersLeaf, if_pos hr]
  · rw [offersLeaf, hr, if_neg Bool.false_ne_true, if_pos hl]

theorem offersLeaf_sum {left right : Descriptor} (general : (sum left right).nullableInner? = none) :
    (sum left right).offersLeaf = (left.offersLeaf || right.offersLeaf) := by
  obtain ⟨hl, hr⟩ := nullableInner?_sum_eq_none general
  rw [offersLeaf, hr, if_neg Bool.false_ne_true, hl, if_neg Bool.false_ne_true]

/-- What a constrained type passes on of what the type inside has read. -/
def Passes (inner : Descriptor) (con : Constraint) (w : Json) : Prop :=
  con.check w = .ok () ∨ (w = .null ∧ inner.isRequired = false)

/-- How a type reads a text and refuses an object. -/
inductive LosesText (c : Catalog) (s : String) (members : List (String × Json)) : Descriptor → Prop
  /-- A leaf reads the one and refuses the other. -/
  | leaf {l : Leaf} {w : Json} (read : l.read (.str s) = .ok w)
      (refused : ∀ x, l.read (.obj members) ≠ .ok x) : LosesText c s members (.leaf l)
  /-- The type behind null does. -/
  | behind {ty inner : Descriptor} (nullable : ty.nullableInner? = some inner)
      (inside : LosesText c s members inner) : LosesText c s members ty
  /-- The default applies to neither. -/
  | withDefault {inner : Descriptor} {fallback : Json} (inside : LosesText c s members inner) :
      LosesText c s members (.withDefault inner fallback)
  /-- What is read satisfies the constraint. -/
  | constrained {inner : Descriptor} {con : Constraint} {w : Json}
      (inside : LosesText c s members inner) (read : coerce c inner (.str s) = .ok w)
      (passes : Passes inner con w) : LosesText c s members (.constrained inner con)
  /-- Both are read, and only what the object is read as violates the constraint. -/
  | unfit {inner : Descriptor} {con : Constraint} {w x : Json}
      (read : coerce c inner (.str s) = .ok w) (passes : Passes inner con w)
      (object : coerce c inner (.obj members) = .ok x) (fails : ¬ Passes inner con x) :
      LosesText c s members (.constrained inner con)
  /-- The first alternative does, and the second refuses the object too. -/
  | left {left right : Descriptor} (general : (sum left right).nullableInner? = none)
      (inside : LosesText c s members left) (refused : ∀ x, coerce c right (.obj members) ≠ .ok x) :
      LosesText c s members (.sum left right)
  /-- The second alternative does, and the first refuses the object too. -/
  | right {left right : Descriptor} (general : (sum left right).nullableInner? = none)
      (refused : ∀ x, coerce c left (.obj members) ≠ .ok x) (inside : LosesText c s members right) :
      LosesText c s members (.sum left right)

variable {c : Catalog} {s : String} {members : List (String × Json)}

theorem coerce_str_ne_ok {ty : Descriptor} (composite : ty.isComposite = true) (w : Json) :
    coerce c ty (.str s) ≠ .ok w := by
  intro read
  cases ty with
  | struct =>
      obtain ⟨_, -, fields⟩ := coerce_struct_eq_ok_iff.1 read
      obtain ⟨_, _, object, -⟩ := coerceFields_eq_ok_iff.1 fields
      cases object
  | recursive =>
      obtain ⟨_, -, fields⟩ := coerce_recursive_eq_ok_iff.1 read
      obtain ⟨_, _, object, -⟩ := coerceFields_eq_ok_iff.1 fields
      cases object
  | array =>
      obtain ⟨_, _, list, -⟩ := coerce_array_eq_ok_iff.1 read
      cases list
  | map =>
      obtain ⟨_, _, object, -⟩ := coerce_map_eq_ok_iff.1 read
      cases object
  | record =>
      rw [coerce_record] at read
      obtain ⟨_, _, object, -⟩ := coerceFields_eq_ok_iff.1 read
      cases object
  | _ => cases composite

theorem not_losesText_of_isComposite {ty : Descriptor} (composite : ty.isComposite = true) :
    ¬ LosesText c s members ty := by
  intro h
  cases h with
  | behind nullable =>
      rcases nullableInner?_eq_some nullable with rfl | ⟨_, rfl, -⟩ | ⟨_, rfl, -⟩ <;> cases composite
  | _ => cases composite

theorem losesText_nullable_iff {ty inner : Descriptor} (nullable : ty.nullableInner? = some inner) :
    LosesText c s members ty ↔ LosesText c s members inner := by
  refine ⟨fun h => ?_, .behind nullable⟩
  cases h with
  | leaf | withDefault | constrained | unfit => cases nullable
  | behind same inside =>
      obtain rfl := Option.some.inj (nullable.symm.trans same)
      exact inside
  | left general | right general => simp [nullable] at general

theorem losesText_sum_iff {left right : Descriptor}
    (general : (sum left right).nullableInner? = none) :
    LosesText c s members (.sum left right) ↔
      LosesText c s members left ∧ (∀ x, coerce c right (.obj members) ≠ .ok x) ∨
      (∀ x, coerce c left (.obj members) ≠ .ok x) ∧ LosesText c s members right := by
  constructor
  · intro h
    cases h with
    | behind same => simp [general] at same
    | left _ inside refused => exact .inl ⟨inside, refused⟩
    | right _ refused inside => exact .inr ⟨refused, inside⟩
  · rintro (⟨inside, refused⟩ | ⟨refused, inside⟩)
    · exact .left general inside refused
    · exact .right general refused inside

theorem losesText_constrained_iff {inner : Descriptor} {con : Constraint} :
    LosesText c s members (.constrained inner con) ↔
      ∃ w, coerce c inner (.str s) = .ok w ∧ Passes inner con w ∧
        (LosesText c s members inner ∨
          ∃ x, coerce c inner (.obj members) = .ok x ∧ ¬ Passes inner con x) := by
  constructor
  · intro h
    cases h with
    | behind nullable => cases nullable
    | constrained inside read passes => exact ⟨_, read, passes, .inl inside⟩
    | unfit read passes object fails => exact ⟨_, read, passes, .inr ⟨_, object, fails⟩⟩
  · rintro ⟨w, read, passes, inside | ⟨x, object, fails⟩⟩
    · exact .constrained inside read passes
    · exact .unfit read passes object fails

section nullable
variable {ty inner : Descriptor} (nullable : ty.nullableInner? = some inner)
include nullable

/-- A type that admits null reads a text as the rest of it does, unless the text is empty. -/
theorem coerce_nullable_str (given : s.isEmpty = false) :
    coerce c ty (.str s) = coerce c inner (.str s) := by
  rw [coerce_nullable nullable, meansNull, given]
  rfl

theorem coerce_nullable_obj : coerce c ty (.obj members) = coerce c inner (.obj members) := by
  rw [coerce_nullable nullable]
  rfl

end nullable

theorem coerce_sum_refuses_iff {left right : Descriptor}
    (general : (sum left right).nullableInner? = none) {v : Json} :
    (∀ w, coerce c (.sum left right) v ≠ .ok w) ↔
      (∀ w, coerce c left v ≠ .ok w) ∧ ∀ w, coerce c right v ≠ .ok w := by
  simp only [Ne, ← not_exists, coerce_sum_succeeds_iff general, not_or]

/-- A text is read and the object refused in one of these ways and in no other. -/
theorem losesText_iff (given : s.isEmpty = false) : ∀ ty : Descriptor,
    LosesText c s members ty ↔
      (∃ w, coerce c ty (.str s) = .ok w) ∧ ∀ x, coerce c ty (.obj members) ≠ .ok x
  | .leaf l => by
      simp only [Ne, coerce_leaf_eq_ok_iff]
      constructor
      · intro h
        cases h with
        | leaf read refused => exact ⟨⟨_, read⟩, refused⟩
        | behind nullable => cases nullable
      · rintro ⟨⟨w, read⟩, refused⟩
        exact .leaf read refused
  | .struct _ | .recursive _ | .array _ | .map _ _ | .record _ =>
      iff_of_false (not_losesText_of_isComposite rfl) fun h =>
        h.1.elim fun w => coerce_str_ne_ok rfl w
  | .optional inner => by
      have nullable : (optional inner).nullableInner? = some inner := rfl
      rw [losesText_nullable_iff nullable, losesText_iff given inner, coerce_nullable_str nullable given,
        coerce_nullable_obj nullable]
  | .withDefault inner fallback => by
      have text : coerce c (.withDefault inner fallback) (.str s) = coerce c inner (.str s) := by
        rw [coerce_withDefault]; rfl
      have object : coerce c (.withDefault inner fallback) (.obj members) =
          coerce c inner (.obj members) := by
        rw [coerce_withDefault]; rfl
      rw [text, object, ← losesText_iff given inner]
      refine ⟨fun h => ?_, .withDefault⟩
      cases h with
      | behind nullable => cases nullable
      | withDefault inside => exact inside
  | .constrained inner con => by
      rw [losesText_constrained_iff, losesText_iff given inner]
      simp only [Ne, coerce_constrained_eq_ok_iff]
      constructor
      · rintro ⟨w, read, passes, ⟨-, refused⟩ | ⟨x, object, fails⟩⟩
        · exact ⟨⟨w, read, passes⟩, fun y h => refused y h.1⟩
        · refine ⟨⟨w, read, passes⟩, fun y h => ?_⟩
          obtain rfl := Except.ok.inj (object.symm.trans h.1)
          exact fails h.2
      · rintro ⟨⟨w, read, passes⟩, refused⟩
        refine ⟨w, read, passes, ?_⟩
        by_cases object : ∃ x, coerce c inner (.obj members) = .ok x
        · obtain ⟨x, object⟩ := object
          exact .inr ⟨x, object, fun passes => refused x ⟨object, passes⟩⟩
        · exact .inl ⟨⟨w, read⟩, fun x h => object ⟨x, h⟩⟩
  | .sum left right => by
      cases nullable : (sum left right).nullableInner? with
      | some inner =>
          have smaller := sizeOf_lt_of_nullableInner? nullable
          rw [losesText_nullable_iff nullable, losesText_iff given inner,
            coerce_nullable_str nullable given, coerce_nullable_obj nullable]
      | none =>
          rw [losesText_sum_iff nullable, losesText_iff given left, losesText_iff given right,
            coerce_sum_succeeds_iff nullable, coerce_sum_refuses_iff nullable]
          constructor
          · rintro (⟨⟨read, refusedLeft⟩, refusedRight⟩ | ⟨refusedLeft, read, refusedRight⟩)
            · exact ⟨.inl read, refusedLeft, refusedRight⟩
            · exact ⟨.inr read, refusedLeft, refusedRight⟩
          · rintro ⟨read | read, refusedLeft, refusedRight⟩
            · exact .inl ⟨⟨read, refusedLeft⟩, refusedRight⟩
            · exact .inr ⟨refusedLeft, read, refusedRight⟩
termination_by ty => sizeOf ty

theorem offersLeaf_of_coerce (given : s.isEmpty = false) : ∀ (ty : Descriptor) {w : Json},
    coerce c ty (.str s) = .ok w → ty.offersLeaf = true
  | .leaf _, _, _ => rfl
  | .struct _, _, read | .recursive _, _, read | .array _, _, read | .map _ _, _, read
  | .record _, _, read => absurd read (coerce_str_ne_ok rfl _)
  | .optional inner, _, read => by
      have nullable : (optional inner).nullableInner? = some inner := rfl
      rw [coerce_nullable_str nullable given] at read
      exact offersLeaf_of_coerce given inner read
  | .withDefault inner fallback, _, read => by
      rw [coerce_withDefault] at read
      exact offersLeaf_of_coerce given inner read
  | .constrained inner con, _, read =>
      offersLeaf_of_coerce given inner (coerce_constrained_eq_ok_iff.1 read).1
  | .sum left right, w, read => by
      cases nullable : (sum left right).nullableInner? with
      | some inner =>
          have smaller := sizeOf_lt_of_nullableInner? nullable
          rw [coerce_nullable_str nullable given] at read
          rw [offersLeaf_nullable nullable]
          exact offersLeaf_of_coerce given inner read
      | none =>
          rw [offersLeaf_sum nullable, Bool.or_eq_true]
          rcases (coerce_sum_eq_ok_iff nullable).1 read with read | ⟨-, read⟩
          · exact .inl (offersLeaf_of_coerce given left read)
          · exact .inr (offersLeaf_of_coerce given right read)
termination_by ty => sizeOf ty

/-! ### What the candidate costs -/

theorem isEmpty_of_spells {members : List (String × Json)}
    (spelled : Json.parse? s = some (.obj members)) : s.isEmpty = false := by
  refine Bool.eq_false_iff.2 fun empty => ?_
  rw [String.isEmpty_iff.1 empty, Json.parse?_empty] at spelled
  cases spelled

/-- The candidate of a text that a type reads is read too, unless the type wants an object and offers a
leaf beside it, the text spells an object and the type has a way to lose the text for it. -/
theorem candidate_read_iff {ty : Descriptor} (single : ty.collectionElement? = none)
    (read : ∃ w, coerce c ty (.str s) = .ok w) (style : Style) :
    (∃ x, coerce c ty (candidate (.single s) ty style) = .ok x) ↔
      (ty.wantsObject = true → ty.offersLeaf = true → ∀ members,
        Json.parse? s = some (.obj members) → ¬ LosesText c s members ty) := by
  have taken : candidate (.single s) ty style = scalarCandidate s ty := by
    rw [candidate.eq_def, single]
  rw [taken]
  constructor
  · rintro ⟨x, object⟩ wanted - members spelled lost
    rw [scalarCandidate_of_parse? wanted spelled] at object
    exact ((losesText_iff (isEmpty_of_spells spelled) ty).1 lost).2 x object
  · intro kept
    by_cases spells : ty.wantsObject = true ∧ ∃ members, Json.parse? s = some (.obj members)
    · obtain ⟨wanted, members, spelled⟩ := spells
      have given := isEmpty_of_spells spelled
      obtain ⟨w, text⟩ := read
      have kept := kept wanted (offersLeaf_of_coerce given ty text) members spelled
      rw [losesText_iff given ty, not_and, not_forall] at kept
      obtain ⟨x, object⟩ := kept ⟨w, text⟩
      rw [scalarCandidate_of_parse? wanted spelled]
      exact ⟨x, of_not_not object⟩
    · rw [scalarCandidate_eq_str fun wanted members spelled => spells ⟨wanted, members, spelled⟩]
      exact read

/-! ### A search -/

/-- What to search for: a text, or a field with its least value. -/
def search : Descriptor :=
  .sum (.leaf .string) (.record [⟨"field", .leaf .string, none⟩, ⟨"least", .leaf .integer, none⟩])

theorem nullableInner?_search : search.nullableInner? = none := rfl

theorem coerce_search_str (s : String) : coerce c search (.str s) = .ok (.str s) :=
  (coerce_sum_eq_ok_iff nullableInner?_search).2 (.inl (coerce_leaf_eq_ok_iff.2 rfl))

/-- A field with its least value. -/
def sizeFromThree : Dict String := .ofList [("field", "size"), ("least", "3")]

theorem coerce_sizeFromThree : ∃ x, coerce ⟨[]⟩ search (.ofTexts sizeFromThree) = .ok x := by
  refine (coerce_sum_succeeds_iff nullableInner?_search).2 (.inr ?_)
  rw [coerce_record]
  refine coerceFields_succeeds_iff.2 fun f mem => ?_
  simp only [List.mem_cons, List.not_mem_nil, or_false] at mem
  rcases mem with rfl | rfl
  · exact ⟨_, coerce_leaf_eq_ok_iff.2 rfl⟩
  · exact ⟨_, coerce_leaf_eq_ok_iff.2 (rfl : Leaf.readInteger (.str "3") = _)⟩

theorem candidate_sizeFromThree_read :
    (Json.ofTexts sizeFromThree).compact = "\x7b\"field\":\"size\",\"least\":\"3\"\x7d" ∧
    search.collectionElement? = none ∧
    (∃ w, coerce ⟨[]⟩ search (.str (Json.ofTexts sizeFromThree).compact) = .ok w) ∧
    ∃ x, coerce ⟨[]⟩ search
      (candidate (.single (Json.ofTexts sizeFromThree).compact) search .form) = .ok x := by
  have read : ∃ w, coerce ⟨[]⟩ search (.str (Json.ofTexts sizeFromThree).compact) = .ok w :=
    ⟨_, coerce_search_str _⟩
  refine ⟨by decide, rfl, read, (candidate_read_iff rfl read .form).2 fun _ _ members spelled lost => ?_⟩
  obtain ⟨x, object⟩ := coerce_sizeFromThree
  rw [Json.parse?_compact_ofTexts] at spelled
  rw [Option.some.inj spelled] at object
  exact ((losesText_iff (isEmpty_of_spells (Json.parse?_compact_ofTexts _)) search).1 lost).2 x object

/-- A field alone. -/
def sizeAlone : Dict String := .ofList [("field", "size")]

/-- The text of a field alone is refused, although every text is one to search for. -/
theorem search_loses_text :
    (Json.ofTexts sizeAlone).compact = "\x7b\"field\":\"size\"\x7d" ∧
    search.collectionElement? = none ∧
    coerce ⟨[]⟩ search (.str (Json.ofTexts sizeAlone).compact) =
      .ok (.str (Json.ofTexts sizeAlone).compact) ∧
    ∀ x, coerce ⟨[]⟩ search (candidate (.single (Json.ofTexts sizeAlone).compact) search .form) ≠
      .ok x := by
  refine ⟨by decide, rfl, coerce_search_str _, ?_⟩
  rw [candidate_ofTexts sizeAlone rfl rfl, search, coerce_sum_refuses_iff nullableInner?_search]
  constructor
  · intro x read
    cases coerce_leaf_eq_ok_iff.1 read
  · rw [coerce_record]
    intro x read
    have fields := coerceFields_succeeds_iff.1 ⟨x, read⟩ ⟨"least", .leaf .integer, none⟩ (by simp)
    cases fields rfl

end Descriptor
end ApiContract
