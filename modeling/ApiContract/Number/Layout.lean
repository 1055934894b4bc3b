import ApiContract.Number.Shortest

/-! # How a number's decimal is laid out

All texts carry the digits of `Binary64.shortest`; a `DecimalLayout` says when they are written
positionally, whether an integral value keeps a fraction, and how an exponent is signed. -/

namespace ApiContract

/-- The choices a text format makes in writing a number. -/
structure DecimalLayout where
  /-- Which exponents (of the form `d.ddd · 10 ^ e`) are written positionally. -/
  positional : Int → Bool
  /-- Whether an integral value written positionally ends in `.0`. -/
  keepsFraction : Bool
  /-- Whether a positive exponent carries a sign. -/
  signsExponent : Bool
  /-- Which of two equally near decimals is written. -/
  tie : Binary64.Tie

namespace DecimalLayout

/-- JSON text: positional for exponents −5 to 15, and a sign before every exponent. -/
def json : DecimalLayout := ⟨fun e => -5 ≤ e && e ≤ 15, true, true, .toEven⟩

/-- YAML text: as in JSON, with no sign before a positive exponent. -/
def yaml : DecimalLayout := ⟨fun e => -5 ≤ e && e ≤ 15, true, false, .toEven⟩

/-- Labels: positional for exponents −4 to 15. -/
def label : DecimalLayout := ⟨fun e => -4 ≤ e && e ≤ 15, true, false, .up⟩

/-- Messages: always positional, with no fraction on an integral value. -/
def message : DecimalLayout := ⟨fun _ => true, false, false, .up⟩

/-- `n` zeros. -/
def zeros (n : Nat) : List Char := List.replicate n '0'

/-- Digits and a point, for `digits · 10 ^ exponent`. -/
def positionalText (l : DecimalLayout) (digits : List Char) (exponent : Int) : List Char :=
  let whole := (digits.length : Int) + exponent
  if 0 ≤ exponent then
    digits ++ zeros exponent.toNat ++ (if l.keepsFraction then ['.', '0'] else [])
  else if 0 < whole then digits.take whole.toNat ++ '.' :: digits.drop whole.toNat
  else '0' :: '.' :: (zeros (-whole).toNat ++ digits)

/-- One digit, a point before the others if there are any, and the exponent. -/
def scientificText (l : DecimalLayout) (digits : List Char) (exponent : Int) : List Char :=
  let sign := if exponent < 0 then ['-'] else if l.signsExponent then ['+'] else []
  let fraction := match digits.drop 1 with
    | [] => []
    | ds => '.' :: ds
  digits.take 1 ++ fraction ++ 'e' :: sign ++ Nat.toDigits 10 exponent.natAbs

/-- The text of a number. -/
def write (l : DecimalLayout) (x : Binary64) : String :=
  let sign := if x.neg then ['-'] else []
  let text :=
    if x.significand = 0 then l.positionalText ['0'] 0
    else
      let (multiple, exponent) := x.shortest l.tie
      let digits := Nat.toDigits 10 multiple
      let leading := exponent + digits.length - 1
      if l.positional leading then l.positionalText digits exponent
      else l.scientificText digits leading
  String.ofList (sign ++ text)

end DecimalLayout
end ApiContract
