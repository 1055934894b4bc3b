/-! # Finite binary64 numbers

A finite binary64 number is `± significand · 2 ^ scale` units, where a unit is `2 ^ -1074`, the
least positive number of the format.  The significand has at most 53 bits and uses all of them
unless the scale is zero, so every number has exactly one representation and equality of
representations tells `0` and `-0` apart.

* `Binary64.units` reads a number as a whole count of units: comparisons are comparisons of integers.
* `Binary64.nearest?` is the number nearest to a quotient, a tie going to the even significand.
* `Binary64.ofDecimal?` is the number nearest to `digits · 10 ^ exponent`.

No arithmetic of the machine is used, so every function here reduces in the kernel. -/

namespace ApiContract

/-- A finite binary64 number, `± significand · 2 ^ scale` units of `2 ^ -1074`. -/
structure Binary64 where
  /-- The sign, which a zero has too. -/
  neg : Bool
  significand : Nat
  scale : Nat
  significand_lt : significand < 1 <<< 53
  scale_le : scale ≤ 2045
  normal : 1 <<< 52 ≤ significand ∨ scale = 0
  deriving DecidableEq

namespace Binary64

/-- How many units make one. -/
def unitsPerOne : Nat := 1 <<< 1074

/-- The absolute value, in units. -/
def magnitude (x : Binary64) : Nat := x.significand <<< x.scale

/-- The value, in units. -/
def units (x : Binary64) : Int := if x.neg then -(x.magnitude : Int) else x.magnitude

/-- Equality as numbers: the two zeros are equal. -/
def sameValue (x y : Binary64) : Bool := x.units == y.units

instance : LT Binary64 := ⟨fun x y => x.units < y.units⟩

instance (x y : Binary64) : Decidable (x < y) := inferInstanceAs (Decidable (x.units < y.units))

/-- Zero with a given sign. -/
def zero (neg : Bool) : Binary64 := ⟨neg, 0, 0, by decide, by decide, .inr rfl⟩

/-- The integer that a number equals, if it has no fraction. -/
def toInt? (x : Binary64) : Option Int :=
  if x.units % unitsPerOne = 0 then some (x.units / unitsPerOne) else none

/-! ### Rounding -/

/-- The integer nearest to `num / den`, a half going to the even one. -/
def divHalfEven (num den : Nat) : Nat :=
  let q := num / den
  let twice := 2 * (num % den)
  if twice < den then q else if den < twice then q + 1 else q + q % 2

/-- The number with these parts, if they are within the format. -/
def ofParts? (neg : Bool) (significand scale : Nat) : Option Binary64 :=
  if h : significand < 1 <<< 53 ∧ scale ≤ 2045 ∧ (1 <<< 52 ≤ significand ∨ scale = 0) then
    some ⟨neg, significand, scale, h.1, h.2.1, h.2.2⟩
  else none

/-- The number nearest to `± num / den`, a tie going to the even significand; `none` if that is
beyond the format. -/
def nearest? (neg : Bool) (num den : Nat) : Option Binary64 :=
  let exact := num * unitsPerOne
  let scale := Nat.log2 (exact / den) - 52
  let significand := divHalfEven exact (den <<< scale)
  if significand = 1 <<< 53 then ofParts? neg (1 <<< 52) (scale + 1)
  else ofParts? neg significand scale

/-- The number nearest to an integer. -/
def ofInt? (n : Int) : Option Binary64 := nearest? (n < 0) n.natAbs 1

/-- The rounded product. -/
def mul? (x y : Binary64) : Option Binary64 :=
  nearest? (x.neg != y.neg) (x.magnitude * y.magnitude) (unitsPerOne * unitsPerOne)

/-- The rounded quotient by a number that is not zero. -/
def div? (x y : Binary64) : Option Binary64 :=
  nearest? (x.neg != y.neg) x.magnitude y.magnitude

/-- The number with the opposite sign. -/
def negate (x : Binary64) : Binary64 := { x with neg := !x.neg }

/-- How many decimal digits a natural number has; none for zero. -/
def decimalLength (n : Nat) : Nat := if n = 0 then 0 else (Nat.toDigits 10 n).length

/-- The number nearest to `± digits · 10 ^ exponent`; `none` if that is beyond the format.  A
value of more than 400 integral digits is beyond it, one below `10 ^ -400` rounds to zero. -/
def ofDecimal? (neg : Bool) (digits : Nat) (exponent : Int) : Option Binary64 :=
  let point := decimalLength digits + exponent
  if digits = 0 ∨ point < -400 then some (zero neg)
  else if 400 < point then none
  else if 0 ≤ exponent then nearest? neg (digits * Nat.pow 10 exponent.toNat) 1
  else nearest? neg digits (Nat.pow 10 (-exponent).toNat)

end Binary64
end ApiContract
