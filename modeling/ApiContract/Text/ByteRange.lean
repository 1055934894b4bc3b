/-! # Ranges of characters as ranges of bytes

The encodings of the characters of a range make up a union of products: in each of them every byte
runs through a range of its own.  `Utf8.products` lists these products in the order of the
characters.

A character takes one to four bytes.  The bytes after the first hold its code point's lower digits
to the base 64, so that a range is cut where a digit has to stay fixed. -/

namespace ApiContract.Utf8

/-- A range of bytes for each byte of an encoding. -/
abbrev Product := List (Nat × Nat)

/-- The products for the numbers from `first` to `last` with `k` digits to the base 64 after the
leading one, which is counted from `lead`. -/
def digitProducts (lead : Nat) : Nat → Nat → Nat → List Product
  | 0, first, last => [[(lead + first, lead + last)]]
  | k + 1, first, last =>
    let unit := Nat.pow 64 (k + 1)
    let fixed (digit first last : Nat) : List Product :=
      (digitProducts 0x80 k first last).map ((lead + digit, lead + digit) :: ·)
    let low := first / unit
    let high := last / unit
    if low = high then fixed low (first % unit) (last % unit)
    else
      let startsFull := first % unit == 0
      let endsFull := last % unit == unit - 1
      let start := if startsFull then low else low + 1
      let upTo := if endsFull then high + 1 else high
      (if startsFull then [] else fixed low (first % unit) (unit - 1)) ++
        (if start < upTo then
          [(lead + start, lead + upTo - 1) :: List.replicate (k + 1) (0x80, 0xBF)] else []) ++
        (if endsFull then [] else fixed high 0 (last % unit))

/-- The ranges of code points that are encoded alike: the bounds, the number of bytes after the
first, and what the leading digit is counted from. -/
def shapes : List (Nat × Nat × Nat × Nat) :=
  [(0, 0x7F, 0, 0), (0x80, 0x7FF, 1, 0xC0), (0x800, 0xD7FF, 2, 0xE0), (0xE000, 0xFFFF, 2, 0xE0),
    (0x10000, 0x10FFFF, 3, 0xF0)]

/-- The products for a range of code points. -/
def products (first last : Nat) : List Product :=
  shapes.flatMap fun (least, most, k, lead) =>
    let a := max first least
    let b := min last most
    if a ≤ b then digitProducts lead k a b else []

end ApiContract.Utf8
