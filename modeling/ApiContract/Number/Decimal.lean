import ApiContract.Number.Binary64
import ApiContract.Text.Blank

/-! # Reading decimal texts

An integer is an optional sign and digits; a decimal number may have a point before, among or after
its digits and an exponent.  The digits are those of ASCII. -/

namespace ApiContract.Text

/-- Splits off a sign: whether it is a minus, and what follows. -/
def cutSign : List Char → Bool × List Char
  | '-' :: cs => (true, cs)
  | '+' :: cs => (false, cs)
  | cs => (false, cs)

/-- The integer that a sign and digits denote. -/
def integer? (cs : List Char) : Option Int :=
  let (neg, digits) := cutSign cs
  (decimal? digits).map fun n => if neg then -(n : Int) else n

end ApiContract.Text

namespace ApiContract.Binary64

/-- The exponent part that ends a decimal text; zero if there is none. -/
def exponentPart? : List Char → Option Int
  | [] => some 0
  | c :: cs => if c = 'e' ∨ c = 'E' then Text.integer? cs else none

/-- The number nearest to the one that a text denotes; `none` if the text denotes none or the number
is beyond the format. -/
def ofText? (cs : List Char) : Option Binary64 :=
  let (neg, cs) := Text.cutSign cs
  let whole := cs.takeWhile Char.isDigit
  let (decimals, rest) := match cs.dropWhile Char.isDigit with
    | '.' :: cs => (cs.takeWhile Char.isDigit, cs.dropWhile Char.isDigit)
    | cs => ([], cs)
  do
    let digits ← Text.decimal? (whole ++ decimals)
    let exponent ← exponentPart? rest
    ofDecimal? neg digits (exponent - decimals.length)

end ApiContract.Binary64
