import ApiContract.Text.Blank
import ApiContract.Text.Utf8

/-! # Percent-encoding and form encoding

A percent sign and two hexadecimal digits stand for a byte; a percent sign that is not followed by
two of them stands for itself.  In a form-encoded text pairs are separated by `&`, name and value
by the first `=`, and `+` is a space; what decodes to no UTF-8 text is read with U+FFFD. -/

namespace ApiContract.Percent

/-- The value of a byte that is a hexadecimal digit. -/
def hexByte? (b : UInt8) : Option Nat := Text.hexValue? (Char.ofNat b.toNat)

/-- Replaces each escape by the byte that it stands for. -/
def decodeBytes : List UInt8 → List UInt8
  | [] => []
  | b :: bytes =>
    if b = 0x25 then
      match bytes with
      | h :: l :: rest =>
        match hexByte? h, hexByte? l with
        | some high, some low => UInt8.ofNat (16 * high + low) :: decodeBytes rest
        | _, _ => b :: decodeBytes (h :: l :: rest)
      | bytes => b :: decodeBytes bytes
    else b :: decodeBytes bytes

/-- Decodes a text; `none` when the bytes are not UTF-8. -/
def decode? (cs : List Char) : Option (List Char) := Utf8.decode? (decodeBytes (Utf8.encode cs))

end ApiContract.Percent

namespace ApiContract.Form

/-- Decodes a name or a value. -/
def decodeComponent (cs : List Char) : String :=
  let spaced := cs.map fun c => if c = '+' then ' ' else c
  String.ofList (Utf8.decodeLossy (Percent.decodeBytes (Utf8.encode spaced)))

/-- Name and value of one piece; a piece with no `=` is a name. -/
def readPair (piece : List Char) : String × String :=
  let (name, value) := (Text.cutAt? (· = '=') piece).getD (piece, [])
  (decodeComponent name, decodeComponent value)

/-- The pairs of a form-encoded text, in order; empty pieces count for nothing. -/
def pairs (text : String) : List (String × String) :=
  ((Text.splitBy (· = '&') text.toList).filter fun piece => !piece.isEmpty).map readPair

end ApiContract.Form
