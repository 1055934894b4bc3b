import ApiContract.Number.Binary64

/-! # The shortest decimal of a binary64 number

A decimal reads back as a number when it lies in the interval of reals that round to that number:
from half-way to the number below to half-way to the number above, ends included when the
significand is even.  `Binary64.shortest` takes the coarsest power of ten of which the interval
holds a multiple, and of the two multiples beside the number the nearer one that reads back. -/

namespace ApiContract.Binary64

/-- Where a decimal goes that is exactly half-way between two multiples. -/
inductive Tie
  | toEven
  | up
  deriving DecidableEq, Repr

/-- A quarter of a unit is the grain in which both ends of the interval are whole. -/
def lowerEnd (x : Binary64) : Nat :=
  4 * x.magnitude - if x.significand = 1 <<< 52 ∧ 0 < x.scale then 1 <<< x.scale else 2 <<< x.scale

/-- The upper end of the interval, in quarters of a unit. -/
def upperEnd (x : Binary64) : Nat := 4 * x.magnitude + 2 <<< x.scale

/-- Whether `multiple · 10 ^ exponent` reads back as `x`. -/
def readsBack (x : Binary64) (multiple : Nat) (exponent : Int) : Bool :=
  let up := Nat.pow 10 exponent.toNat
  let down := Nat.pow 10 (-exponent).toNat
  let point := 4 * (multiple * up * unitsPerOne)
  let low := x.lowerEnd * down
  let high := x.upperEnd * down
  if x.significand % 2 = 0 then low ≤ point && point ≤ high else low < point && point < high

/-- The multiple of `10 ^ exponent` beside `x` that reads back, the nearer one of two. -/
def multiple? (tie : Tie) (x : Binary64) (exponent : Int) : Option Nat :=
  let step := Nat.pow 10 exponent.toNat * unitsPerOne
  let scaled := x.magnitude * Nat.pow 10 (-exponent).toNat
  let below := scaled / step
  let twice := 2 * (scaled % step)
  match x.readsBack below exponent, x.readsBack (below + 1) exponent with
  | true, false => some below
  | false, true => some (below + 1)
  | false, false => none
  | true, true =>
    if twice < step then some below
    else if step < twice then some (below + 1)
    else match tie with
      | .toEven => some (below + below % 2)
      | .up => some (below + 1)

/-- An exponent of ten that no number of this magnitude reaches. -/
def exponentAbove (x : Binary64) : Int :=
  ((Nat.log2 x.magnitude : Int) + 1 - 1074) * 30103 / 100000 + 2

/-- The digits and the exponent of ten of the shortest decimal; seventeen digits always suffice. -/
def shortest (tie : Tie) (x : Binary64) : Nat × Int :=
  let top := x.exponentAbove
  ((List.range 22).findSome? fun (i : Nat) => (x.multiple? tie (top - i)).map (·, top - i)).getD (0, 0)

end ApiContract.Binary64
