/-! # Base64

The standard alphabet in groups of four characters.  The last group is padded with `=`, and the bits
that it does not use are zero, so every list of bytes has one encoding. -/

namespace ApiContract.Base64

/-- The value of a character of the alphabet. -/
def value? (c : Char) : Option Nat :=
  if 'A' ≤ c ∧ c ≤ 'Z' then some (c.toNat - 'A'.toNat)
  else if 'a' ≤ c ∧ c ≤ 'z' then some (c.toNat - 'a'.toNat + 26)
  else if '0' ≤ c ∧ c ≤ '9' then some (c.toNat - '0'.toNat + 52)
  else if c = '+' then some 62
  else if c = '/' then some 63
  else none

/-- The byte of a padded group of two characters. -/
def oneByte? (a b : Char) : Option (List UInt8) := do
  let a ← value? a
  let b ← value? b
  if b % 16 = 0 then return [UInt8.ofNat (4 * a + b / 16)] else none

/-- The bytes of a padded group of three characters. -/
def twoBytes? (a b c : Char) : Option (List UInt8) := do
  let a ← value? a
  let b ← value? b
  let c ← value? c
  if c % 4 = 0 then
    return [UInt8.ofNat (4 * a + b / 16), UInt8.ofNat (16 * (b % 16) + c / 4)]
  else none

/-- The bytes of a group of four characters. -/
def threeBytes? (a b c d : Char) : Option (List UInt8) := do
  let a ← value? a
  let b ← value? b
  let c ← value? c
  let d ← value? d
  return [UInt8.ofNat (4 * a + b / 16), UInt8.ofNat (16 * (b % 16) + c / 4),
    UInt8.ofNat (64 * (c % 4) + d)]

/-- The bytes that a text encodes, if it is a canonical encoding. -/
def decode? : List Char → Option (List UInt8)
  | [] => some []
  | [a, b, c, d] =>
    if d = '=' then if c = '=' then oneByte? a b else twoBytes? a b c else threeBytes? a b c d
  | a :: b :: c :: d :: rest => do
    let bytes ← threeBytes? a b c d
    let more ← decode? rest
    return bytes ++ more
  | _ => none

end ApiContract.Base64
