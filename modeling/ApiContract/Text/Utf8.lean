/-! # UTF-8

`Utf8.encode` writes characters as bytes.  `Utf8.decode?` reads them back and refuses bytes that are
not the encoding of any text; `Utf8.decodeLossy` puts U+FFFD for each maximal run of bytes that
starts some character but does not complete it. -/

namespace ApiContract.Utf8

/-- The bytes of a text. -/
def encode (cs : List Char) : List UInt8 := cs.flatMap String.utf8EncodeChar

/-- A byte that continues a character. -/
def isContinuation (b : UInt8) : Bool := 0x80 ≤ b && b ≤ 0xBF

/-- How many continuation bytes a leading byte announces, and the bounds on the first of them. -/
def shape? (lead : UInt8) : Option (Nat × UInt8 × UInt8) :=
  if lead < 0x80 then some (0, 0x80, 0xBF)
  else if lead < 0xC2 then none
  else if lead < 0xE0 then some (1, 0x80, 0xBF)
  else if lead = 0xE0 then some (2, 0xA0, 0xBF)
  else if lead = 0xED then some (2, 0x80, 0x9F)
  else if lead < 0xF0 then some (2, 0x80, 0xBF)
  else if lead = 0xF0 then some (3, 0x90, 0xBF)
  else if lead < 0xF4 then some (3, 0x80, 0xBF)
  else if lead = 0xF4 then some (3, 0x80, 0x8F)
  else none

/-- The payload bits of a leading byte that announces `n` more. -/
def leadBits (lead : UInt8) : Nat → Nat
  | 0 => lead.toNat
  | 1 => lead.toNat % 32
  | 2 => lead.toNat % 16
  | _ => lead.toNat % 8

/-- The continuation bytes at the front of `bytes` that can follow a leading byte of the given
shape. -/
def tail (count : Nat) (low high : UInt8) (bytes : List UInt8) : List UInt8 :=
  match count, bytes with
  | count + 1, b :: rest =>
    if low ≤ b && b ≤ high then b :: (rest.take count).takeWhile isContinuation else []
  | _, _ => []

/-- The character that starts with `lead` (`none` if it is not complete) and how many of the bytes
after `lead` belong to it. -/
def next (lead : UInt8) (bytes : List UInt8) : Option Char × Nat :=
  match shape? lead with
  | none => (none, 0)
  | some (count, low, high) =>
    let more := tail count low high bytes
    if more.length = count then
      (some (Char.ofNat (more.foldl (fun n b => 64 * n + b.toNat % 64) (leadBits lead count))), count)
    else (none, more.length)

/-- The characters of a list of bytes, with `none` for each incomplete one. -/
def decodeEach : List UInt8 → List (Option Char)
  | [] => []
  | lead :: bytes => (next lead bytes).1 :: decodeEach (bytes.drop (next lead bytes).2)
termination_by bytes => bytes.length

/-- The text that the bytes encode, if they encode one. -/
def decode? (bytes : List UInt8) : Option (List Char) := (decodeEach bytes).mapM id

/-- The text that the bytes encode, with U+FFFD for what encodes none. -/
def decodeLossy (bytes : List UInt8) : List Char :=
  (decodeEach bytes).map fun c => c.getD (Char.ofNat 0xFFFD)

end ApiContract.Utf8
