import ApiContract.Number.Decimal

/-! # Plain scalars

A scalar written without quotes may denote null, a truth value or a number.  `unsigned?` reads
counts, `looksTyped` recognises every text that would not be read back as a text. -/

namespace ApiContract.Yaml

/-- The number that digits of a radix denote; `none` without a digit. -/
def radixNumber? (radix : Nat) (cs : List Char) : Option Nat :=
  if cs.isEmpty then none
  else cs.foldl (fun n c => n.bind fun n =>
    ((Text.hexValue? c).filter (· < radix)).map (radix * n + ·)) (some 0)

/-- The number after a radix mark: `0x`, `0o` or `0b`. -/
def markedNumber? : List Char → Option Nat
  | '0' :: 'x' :: cs => radixNumber? 16 cs
  | '0' :: 'o' :: cs => radixNumber? 8 cs
  | '0' :: 'b' :: cs => radixNumber? 2 cs
  | _ => none

/-- Drops a plus sign. -/
def dropPlus : List Char → List Char
  | '+' :: cs => cs
  | cs => cs

/-- A number below `2 ^ 64`, in decimal digits with no leading zero or after a radix mark. -/
def unsigned? (text : String) : Option Nat :=
  let cs := dropPlus text.toList
  let decimal := match cs with
    | '0' :: _ :: _ => none
    | cs => Text.decimal? cs
  ((markedNumber? cs).or decimal).filter (· < 1 <<< 64)

/-- The words for null, truth values, infinities and the undefined number. -/
def specialWords : List String :=
  ["null", "Null", "NULL", "~", "true", "True", "TRUE", "false", "False", "FALSE",
    ".inf", ".Inf", ".INF", "+.inf", "+.Inf", "+.INF", "-.inf", "-.Inf", "-.INF",
    ".nan", ".NaN", ".NAN"]

/-- Whether digits after a radix mark denote an integer of 128 bits. -/
def isMarkedInteger (cs : List Char) : Bool :=
  match cs with
  | '-' :: cs => (markedNumber? cs).any (· ≤ 1 <<< 127)
  | cs => (markedNumber? (dropPlus cs)).any (· < 1 <<< 128)

/-- Whether a text would be read as something else than a text if it were not quoted. -/
def looksTyped (text : String) : Bool :=
  text.isEmpty || text ∈ specialWords || isMarkedInteger text.toList ||
    (Binary64.ofText? text.toList).isSome

end ApiContract.Yaml
