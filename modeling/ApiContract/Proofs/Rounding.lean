import ApiContract.Number.Binary64
import Mathlib.Tactic.Ring

/-! # Integers rounded to binary64

Among the integers of one binary length the binary64 numbers stand at one distance, `Binary64.spacing`: up
to `2 ^ 53` every integer is one, and beyond, each further binary digit halves their density.
`Binary64.rounded` is the multiple of this distance that is nearest to an integer, of two nearest ones the
even multiple.

* `exists_ofInt?`: rounding an integer of 64 bits gives the binary64 number of that value.
* `le_rounded_iff`, `rounded_le_iff`: rounding never passes a binary64 number.  So an integer and its
  rounded value compare alike with such a number, unless the integer is rounded to this very number.
* `rounded_eq_self`: rounding keeps the binary64 numbers. -/

namespace ApiContract.Binary64

/-- The distance of the binary64 numbers about an integer of this size. -/
def spacing (m : Nat) : Nat := 2 ^ (Nat.log2 m - 52)

/-- The binary64 number nearest to a natural number, of two nearest ones the even multiple of their
distance. -/
def roundedNat (m : Nat) : Nat := divHalfEven m (spacing m) * spacing m

/-- The binary64 number nearest to an integer, of two nearest ones the even multiple of their distance. -/
def rounded (n : Int) : Int := n.sign * roundedNat n.natAbs

theorem spacing_pos (m : Nat) : 0 < spacing m := Nat.two_pow_pos _

/-- One is a power of two in units.  The exponent is named, as a power of this size is not to be worked
out. -/
theorem exists_unitsPerOne_eq : ∃ k, k = 1022 ∧ unitsPerOne = 2 ^ (k + 52) := by
  obtain ⟨k, places⟩ : ∃ k, k = 1022 := ⟨_, rfl⟩
  have total : 1074 = k + 52 := by omega
  refine ⟨k, places, ?_⟩
  unfold unitsPerOne
  rw [total, Nat.one_shiftLeft]

theorem unitsPerOne_pos : 0 < unitsPerOne := by
  obtain ⟨k, -, power⟩ := exists_unitsPerOne_eq
  rw [power]
  exact Nat.two_pow_pos _

/-! ### Quotients -/

theorem divHalfEven_mul_right (num den : Nat) {k : Nat} (pos : 0 < k) :
    divHalfEven (num * k) (den * k) = divHalfEven num den := by
  unfold divHalfEven
  rw [Nat.mul_div_mul_right num den pos, Nat.mul_mod_mul_right, ← Nat.mul_assoc]
  simp only [Nat.mul_lt_mul_right pos]

theorem le_divHalfEven {multiple num den : Nat} (pos : 0 < den) (le : multiple * den ≤ num) :
    multiple ≤ divHalfEven num den := by
  have quotient : multiple ≤ num / den := (Nat.le_div_iff_mul_le pos).2 le
  unfold divHalfEven
  dsimp only
  split
  · exact quotient
  · split <;> omega

theorem divHalfEven_le {multiple num den : Nat} (pos : 0 < den) (le : num ≤ multiple * den) :
    divHalfEven num den ≤ multiple := by
  have whole := Nat.div_add_mod num den
  have less := Nat.mod_lt num pos
  rcases Nat.lt_or_ge (num / den) multiple with below | reached
  · unfold divHalfEven
    dsimp only
    split
    · omega
    · split <;> omega
  · have product : den * multiple ≤ den * (num / den) := Nat.mul_le_mul_left den reached
    have same : num / den = multiple := by
      refine Nat.le_antisymm ?_ reached
      exact (Nat.div_le_iff_le_mul pos).2 (by omega)
    have rest : num % den = 0 := by
      rw [same] at whole
      rw [Nat.mul_comm multiple den] at le
      omega
    unfold divHalfEven
    rw [same, rest]
    simp [pos]

theorem divHalfEven_one (num : Nat) : divHalfEven num 1 = num :=
  Nat.le_antisymm (divHalfEven_le Nat.one_pos (by omega)) (le_divHalfEven Nat.one_pos (by omega))

/-! ### Rounding to a multiple of the spacing -/

section roundedNat
variable {a m : Nat}

theorem le_roundedNat_of_dvd (multiple : spacing m ∣ a) (le : a ≤ m) : a ≤ roundedNat m := by
  obtain ⟨k, rfl⟩ := multiple
  unfold roundedNat
  rw [Nat.mul_comm (spacing m) k] at le ⊢
  exact Nat.mul_le_mul_right _ (le_divHalfEven (spacing_pos m) le)

theorem roundedNat_le_of_dvd (multiple : spacing m ∣ a) (le : m ≤ a) : roundedNat m ≤ a := by
  obtain ⟨k, rfl⟩ := multiple
  unfold roundedNat
  rw [Nat.mul_comm (spacing m) k] at le ⊢
  exact Nat.mul_le_mul_right _ (divHalfEven_le (spacing_pos m) le)

theorem roundedNat_of_le (le : m ≤ 2 ^ 53) : roundedNat m = m := by
  have multiple : spacing m ∣ m := by
    rcases Nat.lt_or_ge m (2 ^ 53) with less | reached
    · have short : Nat.log2 m ≤ 52 := by
        rcases Nat.eq_zero_or_pos m with rfl | pos
        · decide
        · exact Nat.le_of_lt_succ ((Nat.log2_lt (Nat.ne_of_gt pos)).2 less)
      rw [spacing, Nat.sub_eq_zero_of_le short]
      exact Nat.one_dvd m
    · obtain rfl : m = 2 ^ 53 := by omega
      decide
  exact Nat.le_antisymm (roundedNat_le_of_dvd multiple (Nat.le_refl m))
    (le_roundedNat_of_dvd multiple (Nat.le_refl m))

/-- An integer that is a binary64 number of at least the same binary length is a multiple of the
spacing. -/
theorem spacing_dvd {x : Binary64} (value : x.magnitude = a * unitsPerOne) (long : 2 ^ Nat.log2 m ≤ a) :
    spacing m ∣ a := by
  unfold spacing
  rcases Nat.le_total (Nat.log2 m) 52 with short | extended
  · rw [Nat.sub_eq_zero_of_le short]
    exact Nat.one_dvd a
  · obtain ⟨k, places, power⟩ := exists_unitsPerOne_eq
    rw [magnitude, Nat.shiftLeft_eq, power] at value
    have least : 2 ^ (Nat.log2 m + (k + 52)) ≤ a * 2 ^ (k + 52) := by
      rw [Nat.pow_add]
      exact Nat.mul_le_mul_right _ long
    have most : x.significand * 2 ^ x.scale < 2 ^ (53 + x.scale) := by
      rw [Nat.pow_add, ← Nat.one_shiftLeft 53]
      exact Nat.mul_lt_mul_of_pos_right x.significand_lt (Nat.two_pow_pos _)
    have exponents : Nat.log2 m + (k + 52) < 53 + x.scale := by
      refine (Nat.pow_lt_pow_iff_right (a := 2) (by decide)).1 ?_
      exact Nat.lt_of_le_of_lt least (value ▸ most)
    have divides : 2 ^ (Nat.log2 m - 52) * 2 ^ (k + 52) ∣ a * 2 ^ (k + 52) := by
      rw [← Nat.pow_add, ← value]
      exact Nat.dvd_mul_left_of_dvd (Nat.pow_dvd_pow 2 (by omega)) _
    exact Nat.dvd_of_mul_dvd_mul_right (Nat.two_pow_pos _) divides

variable {x : Binary64} (value : x.magnitude = a * unitsPerOne)
include value

theorem le_roundedNat (le : a ≤ m) : a ≤ roundedNat m := by
  rcases Nat.eq_zero_or_pos m with rfl | pos
  · rw [Nat.le_zero.1 le]
    exact Nat.zero_le _
  rcases Nat.lt_or_ge a (2 ^ Nat.log2 m) with short | long
  · have power : spacing m ∣ 2 ^ Nat.log2 m := Nat.pow_dvd_pow 2 (Nat.sub_le _ _)
    have reached := le_roundedNat_of_dvd power (Nat.log2_self_le (Nat.ne_of_gt pos))
    exact Nat.le_trans (Nat.le_of_lt short) reached
  · exact le_roundedNat_of_dvd (spacing_dvd value long) le

theorem roundedNat_le (le : m ≤ a) : roundedNat m ≤ a := by
  rcases Nat.eq_zero_or_pos m with rfl | pos
  · rw [roundedNat_of_le (Nat.zero_le _)]
    exact le
  · have long : 2 ^ Nat.log2 m ≤ a := Nat.le_trans (Nat.log2_self_le (Nat.ne_of_gt pos)) le
    exact roundedNat_le_of_dvd (spacing_dvd value long) le

end roundedNat

/-! ### Rounding as the format does it -/

theorem log2_mul_pow {m : Nat} (pos : m ≠ 0) (k : Nat) : Nat.log2 (m * 2 ^ k) = Nat.log2 m + k := by
  have nonzero : m * 2 ^ k ≠ 0 := Nat.mul_ne_zero pos (Nat.ne_of_gt (Nat.two_pow_pos k))
  refine (Nat.log2_eq_iff nonzero).2 ⟨?_, ?_⟩
  · rw [Nat.pow_add]
    exact Nat.mul_le_mul_right _ (Nat.log2_self_le pos)
  · rw [Nat.add_right_comm, Nat.pow_add]
    exact Nat.mul_lt_mul_of_pos_right Nat.lt_log2_self (Nat.two_pow_pos k)

theorem ofParts?_eq_some (neg : Bool) {significand scale : Nat} (small : significand < 1 <<< 53)
    (low : scale ≤ 2045) (normal : 1 <<< 52 ≤ significand ∨ scale = 0) :
    ∃ x, ofParts? neg significand scale = some x ∧ x.neg = neg ∧
      x.magnitude = significand * 2 ^ scale := by
  unfold ofParts?
  rw [dif_pos ⟨small, low, normal⟩]
  exact ⟨_, rfl, rfl, Nat.shiftLeft_eq _ _⟩

/-- The significand of a rounded integer, at the scale that gives it 53 bits, has the rounded value. -/
theorem significand_mul_scale (m k : Nat) :
    divHalfEven (m * 2 ^ 52) (2 ^ Nat.log2 m) * 2 ^ (Nat.log2 m + k) = roundedNat m * 2 ^ (k + 52) := by
  unfold roundedNat spacing
  generalize Nat.log2 m = length
  rcases Nat.le_total length 52 with short | extended
  · obtain ⟨shift, total⟩ : ∃ shift, 52 = shift + length := ⟨52 - length, by omega⟩
    have exact : divHalfEven (m * 2 ^ 52) (2 ^ length) = m * 2 ^ shift := by
      have scaled := divHalfEven_mul_right (m * 2 ^ shift) 1 (Nat.two_pow_pos length)
      rw [Nat.one_mul, Nat.mul_assoc, ← Nat.pow_add, ← total, divHalfEven_one] at scaled
      exact scaled
    have exponents : shift + (length + k) = k + 52 := by omega
    rw [exact, Nat.sub_eq_zero_of_le short, Nat.pow_zero, divHalfEven_one, Nat.mul_one, Nat.mul_assoc,
      ← Nat.pow_add, exponents]
  · obtain ⟨shift, rfl⟩ : ∃ shift, length = shift + 52 := ⟨length - 52, by omega⟩
    have exponents : shift + 52 + k = shift + (k + 52) := by omega
    rw [Nat.add_sub_cancel, exponents, Nat.pow_add 2 shift 52, Nat.pow_add 2 shift (k + 52),
      divHalfEven_mul_right _ _ (Nat.two_pow_pos 52), Nat.mul_assoc]

/-- The significand of a rounded integer has 53 bits, or is the next power of two. -/
theorem significand_bounds {m : Nat} (nonzero : m ≠ 0) :
    2 ^ 52 ≤ divHalfEven (m * 2 ^ 52) (2 ^ Nat.log2 m) ∧
      divHalfEven (m * 2 ^ 52) (2 ^ Nat.log2 m) ≤ 2 ^ 53 := by
  constructor
  · refine le_divHalfEven (Nat.two_pow_pos _) ?_
    rw [Nat.mul_comm]
    exact Nat.mul_le_mul_right _ (Nat.log2_self_le nonzero)
  · refine divHalfEven_le (Nat.two_pow_pos _) ?_
    have exponents : 53 + Nat.log2 m = Nat.log2 m + 1 + 52 := by omega
    rw [← Nat.pow_add, exponents, Nat.pow_add 2 (Nat.log2 m + 1) 52]
    exact Nat.mul_le_mul_right _ (Nat.le_of_lt Nat.lt_log2_self)

/-- What the integer and the scale have in common does not count. -/
theorem significand_reduced (m k : Nat) :
    divHalfEven (m * 2 ^ (k + 52)) (1 <<< (Nat.log2 m + k)) =
      divHalfEven (m * 2 ^ 52) (2 ^ Nat.log2 m) := by
  have common := divHalfEven_mul_right (m * 2 ^ 52) (2 ^ Nat.log2 m) (Nat.two_pow_pos k)
  rw [Nat.mul_assoc, ← Nat.pow_add, ← Nat.pow_add, Nat.add_comm 52] at common
  rw [Nat.one_shiftLeft]
  exact common

/-- A natural number of 64 bits is rounded within the format. -/
theorem exists_nearest? (neg : Bool) {m : Nat} (lt : m < 2 ^ 64) :
    ∃ x, nearest? neg m 1 = some x ∧ x.neg = neg ∧ x.magnitude = roundedNat m * unitsPerOne := by
  rcases Nat.eq_zero_or_pos m with rfl | pos
  · refine ⟨zero neg, ?_, rfl, ?_⟩
    · cases neg <;> decide +kernel
    · rw [roundedNat_of_le (Nat.zero_le _), Nat.zero_mul]
      rfl
  · have nonzero : m ≠ 0 := Nat.ne_of_gt pos
    have length : Nat.log2 m < 64 := (Nat.log2_lt nonzero).2 lt
    obtain ⟨k, places, power⟩ := exists_unitsPerOne_eq
    have scale : Nat.log2 (m * 2 ^ (k + 52) / 1) - 52 = Nat.log2 m + k := by
      rw [Nat.div_one, log2_mul_pow nonzero]
      omega
    have value := significand_mul_scale m k
    obtain ⟨least, most⟩ := significand_bounds nonzero
    unfold nearest?
    dsimp only
    rw [power, scale, significand_reduced, ← value]
    generalize divHalfEven (m * 2 ^ 52) (2 ^ Nat.log2 m) = significand at least most
    split
    · next full =>
      have low : Nat.log2 m + k + 1 ≤ 2045 := by omega
      have small : 1 <<< 52 < 1 <<< 53 := by decide
      obtain ⟨x, found, sign, magnitude⟩ := ofParts?_eq_some neg small low (.inl (Nat.le_refl _))
      refine ⟨x, found, sign, magnitude.trans ?_⟩
      rw [full, Nat.one_shiftLeft, Nat.one_shiftLeft, Nat.pow_succ 2 (Nat.log2 m + k)]
      ring
    · next partly =>
      rw [Nat.one_shiftLeft] at partly
      exact ofParts?_eq_some neg (by rw [Nat.one_shiftLeft]; omega) (by omega)
        (.inl (by rw [Nat.one_shiftLeft]; exact least))

/-! ### Integers -/

theorem toInt?_eq_some_iff {x : Binary64} {a : Int} :
    x.toInt? = some a ↔ x.units = a * unitsPerOne := by
  have pos : (unitsPerOne : Int) ≠ 0 := Int.natCast_ne_zero.2 (Nat.ne_of_gt unitsPerOne_pos)
  unfold toInt?
  constructor
  · intro h
    split at h
    · next whole =>
      rw [← Option.some.inj h]
      exact (Int.ediv_mul_cancel (Int.dvd_of_emod_eq_zero whole)).symm
    · cases h
  · intro value
    rw [value, Int.mul_emod_left, if_pos rfl, Int.mul_ediv_cancel _ pos]

theorem magnitude_of_toInt? {x : Binary64} {a : Int} (whole : x.toInt? = some a) :
    x.magnitude = a.natAbs * unitsPerOne := by
  have value := congrArg Int.natAbs (toInt?_eq_some_iff.1 whole)
  rw [Int.natAbs_mul, Int.natAbs_natCast] at value
  rw [← value]
  unfold units
  split <;> simp

theorem rounded_neg (n : Int) : rounded (-n) = -rounded n := by
  unfold rounded
  rw [Int.sign_neg, Int.natAbs_neg, Int.neg_mul]

theorem rounded_natCast (m : Nat) : rounded m = roundedNat m := by
  unfold rounded
  rcases Nat.eq_zero_or_pos m with rfl | pos
  · rw [Int.natAbs_natCast, roundedNat_of_le (Nat.zero_le _)]
    rfl
  · rw [Int.sign_eq_one_of_pos (Int.natCast_pos.2 pos), Int.natAbs_natCast, Int.one_mul]

theorem toInt?_negate {x : Binary64} {a : Int} (whole : x.toInt? = some a) :
    x.negate.toInt? = some (-a) := by
  rw [toInt?_eq_some_iff] at whole ⊢
  have opposite : x.negate.units = -x.units := by
    unfold units negate magnitude
    cases x.neg <;> simp
  rw [opposite, whole, Int.neg_mul]

theorem exists_ofInt? {n : Int} (short : n.natAbs < 2 ^ 64) :
    ∃ x, ofInt? n = some x ∧ x.toInt? = some (rounded n) := by
  obtain ⟨x, found, sign, magnitude⟩ := exists_nearest? (decide (n < 0)) short
  refine ⟨x, found, toInt?_eq_some_iff.2 ?_⟩
  unfold units
  rw [sign, magnitude]
  rcases lt_or_ge n 0 with negative | nonneg
  · obtain ⟨m, rfl⟩ : ∃ m : Nat, n = -m := ⟨n.natAbs, by omega⟩
    rw [if_pos (decide_eq_true negative), rounded_neg, rounded_natCast, Int.natAbs_neg, Int.natAbs_natCast,
      Int.natCast_mul, Int.neg_mul]
  · obtain ⟨m, rfl⟩ := Int.eq_ofNat_of_zero_le nonneg
    rw [if_neg (by simp), rounded_natCast, Int.natAbs_natCast, Int.natCast_mul]

section compare
variable {x : Binary64} {a n : Int} (whole : x.toInt? = some a)
include whole

theorem le_rounded (le : a ≤ n) : a ≤ rounded n := by
  have value := magnitude_of_toInt? whole
  rcases lt_or_ge n 0 with negative | nonneg
  · obtain ⟨m, rfl⟩ : ∃ m : Nat, n = -m := ⟨n.natAbs, by omega⟩
    have bound := roundedNat_le (m := m) value (by omega)
    rw [rounded_neg, rounded_natCast]
    omega
  · rcases lt_or_ge a 0 with below | above
    · obtain ⟨m, rfl⟩ := Int.eq_ofNat_of_zero_le nonneg
      rw [rounded_natCast]
      omega
    · obtain ⟨m, rfl⟩ := Int.eq_ofNat_of_zero_le nonneg
      have bound := le_roundedNat (m := m) value (by omega)
      rw [rounded_natCast]
      omega

theorem rounded_le (le : n ≤ a) : rounded n ≤ a := by
  have opposite := le_rounded (toInt?_negate whole) (Int.neg_le_neg le)
  rw [rounded_neg] at opposite
  exact Int.neg_le_neg_iff.1 opposite

/-- A binary64 number is at most the rounded integer iff it is at most the integer or what this is rounded
to. -/
theorem le_rounded_iff : a ≤ rounded n ↔ a ≤ n ∨ rounded n = a := by
  constructor
  · intro le
    rcases le_or_gt a n with holds | fails
    · exact .inl holds
    · exact .inr (Int.le_antisymm (rounded_le whole (Int.le_of_lt fails)) le)
  · rintro (le | same)
    · exact le_rounded whole le
    · exact Int.le_of_eq same.symm

theorem rounded_le_iff : rounded n ≤ a ↔ n ≤ a ∨ rounded n = a := by
  constructor
  · intro le
    rcases le_or_gt n a with holds | fails
    · exact .inl holds
    · exact .inr (Int.le_antisymm le (le_rounded whole (Int.le_of_lt fails)))
  · rintro (le | same)
    · exact rounded_le whole le
    · exact Int.le_of_eq same

theorem rounded_eq_self : rounded a = a :=
  Int.le_antisymm (rounded_le whole (Int.le_refl a)) (le_rounded whole (Int.le_refl a))

end compare

theorem rounded_of_le {n : Int} (small : n.natAbs ≤ 2 ^ 53) : rounded n = n := by
  unfold rounded
  rw [roundedNat_of_le small]
  exact Int.sign_mul_natAbs n

end ApiContract.Binary64
