import ApiContract.Number.Layout

/-! # JSON numbers

A number token is an integer when it has neither fraction nor exponent and lies between `-2 ^ 63`
and `2 ^ 64 - 1`; every other token is a binary64 number.  An integer is never the same value as a
binary64 number, whatever the two denote. -/

namespace ApiContract

/-- A JSON number: an integer token of 64 bits, or a finite binary64 number. -/
inductive Number
  | int (n : Int) (inRange : -0x8000000000000000 ≤ n ∧ n < 0x10000000000000000)
  | float (x : Binary64)
  deriving DecidableEq

namespace Number

/-- An integer within the range of integer tokens. -/
def ofInt? (n : Int) : Option Number :=
  if h : -0x8000000000000000 ≤ n ∧ n < 0x10000000000000000 then some (.int n h) else none

/-- Equality of values, for which the two zeros of binary64 are equal. -/
def same : Number → Number → Bool
  | .int m _, .int n _ => m == n
  | .float x, .float y => x.sameValue y
  | _, _ => false

/-- The nearest binary64 number. -/
def toBinary64? : Number → Option Binary64
  | .int n _ => Binary64.ofInt? n
  | .float x => some x

/-- The text of a number in a JSON document. -/
def text : Number → String
  | .int n _ => toString n
  | .float x => DecimalLayout.json.write x

/-! ### Reading -/

/-- The value of a decimal digit. -/
def digitValue (c : Char) : Nat := c.toNat - '0'.toNat

/-- Appends decimal digits to a number while the result fits in 64 bits: the result, and how many
digits are left over. -/
def appendDigits (start : Nat) : List Char → Nat × Nat
  | [] => (start, 0)
  | c :: cs =>
    let next := 10 * start + digitValue c
    if next < 1 <<< 64 then appendDigits next cs else (start, cs.length + 1)

/-- `x · 10 ^ exponent`, rounded after each step: the power of ten is rounded first, and an
exponent below −308 is applied in steps of 308. -/
def scale? (x : Binary64) (exponent : Int) : Nat → Option Binary64
  | 0 => some (Binary64.zero x.neg)
  | steps + 1 =>
    if x.significand = 0 then some x
    else if 308 < exponent then none
    else if 0 ≤ exponent then (Binary64.nearest? false (Nat.pow 10 exponent.toNat) 1).bind x.mul?
    else if -308 ≤ exponent then
      (Binary64.nearest? false (Nat.pow 10 (-exponent).toNat) 1).bind x.div?
    else
      (Binary64.nearest? false (Nat.pow 10 308) 1).bind x.div? |>.bind
        (scale? · (exponent + 308) steps)

/-- The binary64 number of a token, from its sign, integral digits, decimals and exponent.  The
leading digits that fit in 64 bits are rounded to binary64 and then scaled; the digits after them
only count. -/
def floatOfToken? (neg : Bool) (whole decimals : List Char) (exponent : Int) : Option Binary64 :=
  let (significand, surplus) := appendDigits 0 whole
  let (significand, unread) := appendDigits significand decimals
  let shift := (surplus : Int) - (decimals.length - unread : Nat) + exponent
  (Binary64.nearest? neg significand 1).bind (scale? · shift 4)

/-- The number of a token with neither fraction nor exponent.  Minus zero is a binary64 number. -/
def ofWhole? (neg : Bool) (whole : List Char) : Option Number :=
  let (n, surplus) := appendDigits 0 whole
  let signed := if neg then -(n : Int) else n
  if surplus = 0 ∧ ¬(neg ∧ n = 0) then
    match ofInt? signed with
    | some number => some number
    | none => (floatOfToken? neg whole [] 0).map .float
  else (floatOfToken? neg whole [] 0).map .float

/-- The exponent part of a token, if there is one, and what follows. -/
def readExponent? : List Char → Option (Option Int × List Char)
  | c :: cs =>
    if c = 'e' ∨ c = 'E' then
      let (neg, cs) := match cs with
        | '-' :: cs => (true, cs)
        | '+' :: cs => (false, cs)
        | cs => (false, cs)
      let ds := cs.takeWhile Char.isDigit
      if ds.isEmpty then none
      else
        let n : Int := ds.foldl (fun n d => 10 * n + digitValue d) 0
        some (some (if neg then -n else n), cs.dropWhile Char.isDigit)
    else some (none, c :: cs)
  | [] => some (none, [])

/-- The decimals of a token, if there is a point, and what follows. -/
def readDecimals? : List Char → Option (Option (List Char) × List Char)
  | '.' :: cs =>
    let ds := cs.takeWhile Char.isDigit
    if ds.isEmpty then none else some (some ds, cs.dropWhile Char.isDigit)
  | cs => some (none, cs)

/-- The digits before the point, which have no leading zero, and what follows. -/
def readWhole? : List Char → Option (List Char × List Char)
  | '0' :: cs => some (['0'], cs)
  | cs =>
    let ds := cs.takeWhile Char.isDigit
    if ds.isEmpty then none else some (ds, cs.dropWhile Char.isDigit)

/-- Reads a number token from the front of a text. -/
def read? (cs : List Char) : Option (Number × List Char) := do
  let (neg, cs) := match cs with
    | '-' :: cs => (true, cs)
    | cs => (false, cs)
  let (whole, cs) ← readWhole? cs
  let (decimals, cs) ← readDecimals? cs
  let (exponent, cs) ← readExponent? cs
  let number ← match decimals, exponent with
    | none, none => ofWhole? neg whole
    | _, _ => (floatOfToken? neg whole (decimals.getD []) (exponent.getD 0)).map .float
  return (number, cs)

end Number
end ApiContract
