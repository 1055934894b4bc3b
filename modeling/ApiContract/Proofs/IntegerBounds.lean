import ApiContract.Proofs.Coercion
import ApiContract.Proofs.LeafValues
import ApiContract.Proofs.Rounding

/-! # Integers within bounds

`Constraint.range` compares an integer by the binary64 number nearest to it.  If the bounds are integers
too, an integer within them always passes, and one beyond a bound passes exactly if it is rounded to this
bound (`Descriptor.coerce_integerRange_iff`).  So the comparison is one of integers at all bounds for those
integers that are binary64 numbers themselves, among them all up to `2 ^ 53`, and for no others: an upper
bound of `2 ^ 53` lets `2 ^ 53 + 1` through. -/

namespace ApiContract
namespace Constraint

/-! ### What the check compares -/

theorem require_eq_ok_iff {condition : Bool} {message : String} :
    require condition message = .ok () ↔ condition = true := by
  cases condition <;> simp [require]

theorem require_bind_eq_ok_iff {condition : Bool} {message : String} {next : Unit → Except String Unit} :
    (require condition message >>= next) = .ok () ↔ condition = true ∧ next () = .ok () := by
  cases condition <;> simp [require, bind, Except.bind]

theorem check_range_eq_ok_iff {min max : Option Binary64} {v : Json} {x : Binary64}
    (read : v.toBinary64? = some x) : (range min max).check v = .ok () ↔
      (∀ least ∈ min, ¬ x < least) ∧ ∀ most ∈ max, ¬ most < x := by
  unfold range
  dsimp only
  rw [read]
  cases min with
  | none =>
      cases max with
      | none => exact ⟨fun _ => by simp, fun _ => rfl⟩
      | some most => simp [require_eq_ok_iff]
  | some least =>
      apply require_bind_eq_ok_iff.trans
      apply and_congr
      · simp
      · cases max with
        | none => exact ⟨fun _ => by simp, fun _ => rfl⟩
        | some most => simp [require_eq_ok_iff]

end Constraint

/-! ### Bounds that are integers -/

/-- An integer that is a binary64 number. -/
structure WholeNumber where
  number : Binary64
  value : Int
  toInt?_eq : number.toInt? = some value

namespace WholeNumber

variable (min max : Option WholeNumber)

/-- The integers between two bounds, either of which may be missing. -/
def Between (n : Int) : Prop := (∀ a ∈ min, a.value ≤ n) ∧ ∀ b ∈ max, n ≤ b.value

/-- The integers between two bounds, and those beyond a bound that are rounded to it. -/
def NearlyBetween (n : Int) : Prop :=
  (∀ a ∈ min, a.value ≤ n ∨ Binary64.rounded n = a.value) ∧
    ∀ b ∈ max, n ≤ b.value ∨ Binary64.rounded n = b.value

/-- The constraint to the numbers between two bounds. -/
def range : Constraint := .range (min.map number) (max.map number)

theorem lt_iff {x y : Binary64} {a b : Int} (first : x.toInt? = some a) (second : y.toInt? = some b) :
    x < y ↔ a < b := by
  have pos : (0 : Int) < Binary64.unitsPerOne := Int.natCast_pos.2 Binary64.unitsPerOne_pos
  show x.units < y.units ↔ a < b
  rw [Binary64.toInt?_eq_some_iff.1 first, Binary64.toInt?_eq_some_iff.1 second]
  exact Int.mul_lt_mul_right pos

section token
variable {n : Int} (inRange : -0x8000000000000000 ≤ n ∧ n < 0x10000000000000000)
include inRange

theorem exists_rounded : ∃ a : WholeNumber,
    (Json.num (.int n inRange)).toBinary64? = some a.number ∧ a.value = Binary64.rounded n := by
  have short : n.natAbs < 2 ^ 64 := by omega
  obtain ⟨x, nearest, whole⟩ := Binary64.exists_ofInt? short
  exact ⟨⟨x, _, whole⟩, nearest, rfl⟩

theorem check_range_iff :
    (range min max).check (.num (.int n inRange)) = .ok () ↔ NearlyBetween min max n := by
  obtain ⟨a, nearest, value⟩ := exists_rounded inRange
  apply (Constraint.check_range_eq_ok_iff nearest).trans
  apply and_congr
  · simp only [Option.mem_def, Option.map_eq_some_iff, forall_exists_index, and_imp,
      forall_apply_eq_imp_iff₂, lt_iff a.toInt?_eq (toInt?_eq _), Int.not_lt, value,
      Binary64.le_rounded_iff (toInt?_eq _)]
  · simp only [Option.mem_def, Option.map_eq_some_iff, forall_exists_index, and_imp,
      forall_apply_eq_imp_iff₂, lt_iff (toInt?_eq _) a.toInt?_eq, Int.not_lt, value,
      Binary64.rounded_le_iff (toInt?_eq _)]

theorem rounded_eq_self_of_exact
    (exact : ∀ min max, NearlyBetween min max n ↔ Between min max n) : Binary64.rounded n = n := by
  obtain ⟨a, -, value⟩ := exists_rounded inRange
  have below := (exact (some a) none).1 (by simp [NearlyBetween, value])
  have above := (exact none (some a)).1 (by simp [NearlyBetween, value])
  rw [← value]
  exact Int.le_antisymm (below.1 a rfl) (above.2 a rfl)

end token

theorem nearlyBetween_iff_of_whole (a : WholeNumber) :
    NearlyBetween min max a.value ↔ Between min max a.value := by
  have same : Binary64.rounded a.value = a.value := Binary64.rounded_eq_self a.toInt?_eq
  unfold NearlyBetween Between
  rw [same]
  apply and_congr
  · refine forall₂_congr fun b _ => ?_
    constructor
    · rintro (le | eq) <;> omega
    · exact .inl
  · refine forall₂_congr fun b _ => ?_
    constructor
    · rintro (le | eq) <;> omega
    · exact .inl

end WholeNumber

namespace Descriptor

open WholeNumber

/-- What is read at the type of the integers between two bounds is an integer that is between them or is
rounded to the bound that it is beyond.  That is exact, at all bounds, for those integers alone that are
binary64 numbers; all integers up to `2 ^ 53` are. -/
theorem coerce_integerRange_iff (c : Catalog) :
    (∀ min max v w, coerce c (.constrained (.leaf .integer) (range min max)) v = .ok w ↔
      coerce c (.leaf .integer) v = .ok w ∧
        ∃ n inRange, w = .num (.int n inRange) ∧ NearlyBetween min max n) ∧
    ∀ n inRange,
      (∀ min max, (range min max).check (.num (.int n inRange)) = .ok () ↔ NearlyBetween min max n) ∧
      ((∀ min max, (range min max).check (.num (.int n inRange)) = .ok () ↔ Between min max n) ↔
        ∃ a : WholeNumber, a.value = n) ∧
      (n.natAbs ≤ 2 ^ 53 → ∃ a : WholeNumber, a.value = n) := by
  refine ⟨fun min max v w => ?_, fun n inRange => ⟨fun min max => ?_, ?_, fun small => ?_⟩⟩
  · have required : (leaf Leaf.integer).isRequired = true := by decide
    rw [coerce_constrained_eq_ok_iff, required]
    simp only [Bool.true_eq_false, and_false, or_false]
    apply and_congr_right
    intro read
    obtain ⟨n, inRange, rfl⟩ := Leaf.exists_int_of_readInteger (coerce_leaf_eq_ok_iff.1 read)
    constructor
    · intro passed
      exact ⟨n, inRange, rfl, (check_range_iff min max inRange).1 passed⟩
    · rintro ⟨_, _, same, near⟩
      cases same
      exact (check_range_iff min max inRange).2 near
  · exact check_range_iff min max inRange
  · simp only [check_range_iff _ _ inRange]
    constructor
    · intro exact
      obtain ⟨a, -, value⟩ := exists_rounded inRange
      exact ⟨a, value.trans (rounded_eq_self_of_exact inRange exact)⟩
    · rintro ⟨a, rfl⟩ min max
      exact nearlyBetween_iff_of_whole min max a
  · obtain ⟨a, -, value⟩ := exists_rounded inRange
    exact ⟨a, value.trans (Binary64.rounded_of_le small)⟩

/-- `2 ^ 53`, from which on not every integer is a binary64 number. -/
def twoPow53 : WholeNumber where
  number := ⟨false, 1 <<< 52, 1075, by decide, by decide, by decide⟩
  value := 0x20000000000000
  toInt?_eq := by decide +kernel

theorem coerce_twoPow53 :
    ∃ inRange : -0x8000000000000000 ≤ twoPow53.value ∧ twoPow53.value < 0x10000000000000000,
      coerce ⟨[]⟩ (.constrained (.leaf .integer) (range (some twoPow53) (some twoPow53)))
        (.num (.int twoPow53.value inRange)) = .ok (.num (.int twoPow53.value inRange)) ∧
      ∀ min max, (range min max).check (.num (.int twoPow53.value inRange)) = .ok () ↔
        Between min max twoPow53.value := by
  have inRange : -0x8000000000000000 ≤ twoPow53.value ∧ twoPow53.value < 0x10000000000000000 := by
    decide
  have near : NearlyBetween (some twoPow53) (some twoPow53) twoPow53.value := by
    simp [NearlyBetween]
  have read : coerce ⟨[]⟩ (.leaf .integer) (.num (.int twoPow53.value inRange)) =
      .ok (.num (.int twoPow53.value inRange)) := coerce_leaf_eq_ok_iff.2 rfl
  refine ⟨inRange, ?_, ?_⟩
  · exact ((coerce_integerRange_iff ⟨[]⟩).1 _ _ _ _).2 ⟨read, _, inRange, rfl, near⟩
  · exact ((coerce_integerRange_iff ⟨[]⟩).2 _ inRange).2.1.2 ⟨twoPow53, rfl⟩

/-- The integer after it is read where nothing above `2 ^ 53` may be. -/
theorem coerce_afterTwoPow53 :
    coerce ⟨[]⟩ (.constrained (.leaf .integer) (range none (some twoPow53)))
        (.num (.int 0x20000000000001 (by decide))) = .ok (.num (.int 0x20000000000001 (by decide))) ∧
    ¬ Between none (some twoPow53) 0x20000000000001 := by
  have near : NearlyBetween none (some twoPow53) 0x20000000000001 := by
    have down : Binary64.rounded 0x20000000000001 = twoPow53.value := by decide +kernel
    simp [NearlyBetween, down]
  have passed := (check_range_iff none (some twoPow53) (n := 0x20000000000001) (by decide)).2 near
  constructor
  · exact coerce_constrained_eq_ok_iff.2 ⟨coerce_leaf_eq_ok_iff.2 rfl, .inl passed⟩
  · intro between
    exact absurd (between.2 twoPow53 rfl) (by decide)

end Descriptor
end ApiContract
