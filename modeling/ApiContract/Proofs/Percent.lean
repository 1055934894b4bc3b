import ApiContract.Proofs.Utf8
import ApiContract.Text.Percent

/-! # Percent-encoding, written and read back

`Percent.encode` writes the bytes of a text: some as the characters with their numbers, all others as a
percent sign and two hexadecimal digits.  Which bytes may stand for themselves differs from place to place;
`Percent.Plain` says what is asked of them.

A way to write single bytes is undone by `Percent.decodeBytes` if each byte is read back in front of any
others (`Percent.ReadBack`).  Then all bytes are (`Percent.ReadBack.decodeBytes_flatMap`), and percent-encoding
is such a way (`Percent.Plain.readBack`). -/

namespace ApiContract.Percent

/-- The hexadecimal digit of a number below 16, with a capital letter. -/
def hexDigit (n : Nat) : Char := "0123456789ABCDEF".toList.getD n '0'

/-- The escape of a byte. -/
def escape (b : UInt8) : List Char := ['%', hexDigit (b.toNat / 16), hexDigit (b.toNat % 16)]

/-- A byte as the character with its number if that character is plain, and escaped otherwise. -/
def writeByte (plain : Char → Bool) (b : UInt8) : List Char :=
  if plain (Char.ofNat b.toNat) then [Char.ofNat b.toNat] else escape b

/-- The bytes of a text, escaped save for the plain ones. -/
def encode (plain : Char → Bool) (s : String) : List Char :=
  (Utf8.encode s.toList).flatMap (writeByte plain)

/-- Characters that may stand for themselves: below 128, and no percent sign.  Escapes are written with
digits among them. -/
structure Plain (plain : Char → Bool) : Prop where
  ascii : ∀ n < 256, plain (Char.ofNat n) = true → n < 128
  percent : plain '%' = false
  digit : ∀ n < 16, plain (hexDigit n) = true

instance (plain : Char → Bool) : Decidable (Plain plain) :=
  decidable_of_iff ((∀ n < 256, plain (Char.ofNat n) = true → n < 128) ∧ plain '%' = false ∧
      ∀ n < 16, plain (hexDigit n) = true)
    ⟨fun h => ⟨h.1, h.2.1, h.2.2⟩, fun h => ⟨h.ascii, h.percent, h.digit⟩⟩

/-- Each byte that is written is read back, whatever bytes follow. -/
def ReadBack (write : UInt8 → List Char) : Prop :=
  ∀ b bytes, decodeBytes (Utf8.encode (write b) ++ bytes) = b :: decodeBytes bytes

theorem ReadBack.decodeBytes_flatMap {write : UInt8 → List Char} (back : ReadBack write)
    (bytes : List UInt8) : decodeBytes (Utf8.encode (bytes.flatMap write)) = bytes := by
  induction bytes with
  | nil => rfl
  | cons b bytes ih =>
      rw [List.flatMap_cons, Utf8.encode, List.flatMap_append, ← Utf8.encode, ← Utf8.encode, back, ih]

/-! ### Single bytes -/

theorem decodeBytes_cons {b : UInt8} (bare : b ≠ 0x25) (bytes : List UInt8) :
    decodeBytes (b :: bytes) = b :: decodeBytes bytes := by
  rw [decodeBytes.eq_def]
  simp only [if_neg bare]

theorem hexDigit_lt : ∀ n < 16, (hexDigit n).toNat < 128 := by decide

theorem hexByte?_hexDigit : ∀ n < 16, (Utf8.encode [hexDigit n]).map hexByte? = [some n] := by
  decide

theorem readBack_escape : ReadBack escape := by
  intro b bytes
  have small := b.toNat_lt
  obtain ⟨h, high, high_value⟩ :=
    List.map_eq_singleton_iff.1 (hexByte?_hexDigit (b.toNat / 16) (by omega))
  obtain ⟨l, low, low_value⟩ :=
    List.map_eq_singleton_iff.1 (hexByte?_hexDigit (b.toNat % 16) (by omega))
  have written : Utf8.encode (escape b) = [0x25, h, l] := by
    have sign : Utf8.encode ['%'] = [0x25] := by decide
    have apart : Utf8.encode (escape b) = Utf8.encode ['%'] ++ Utf8.encode [hexDigit (b.toNat / 16)] ++
        Utf8.encode [hexDigit (b.toNat % 16)] := by
      simp [Utf8.encode, escape]
    rw [apart, sign, high, low]
    rfl
  have value : 16 * (b.toNat / 16) + b.toNat % 16 = b.toNat := by omega
  rw [written, List.cons_append, decodeBytes.eq_def]
  simp [high_value, low_value, value]

namespace Plain
variable {plain : Char → Bool} (fit : Plain plain)
include fit

theorem readBack : ReadBack (writeByte plain) := by
  intro b bytes
  unfold writeByte
  split
  · next itself =>
    have low : b.toNat < 128 := fit.ascii b.toNat b.toNat_lt itself
    have bare : b ≠ 0x25 := by
      rintro rfl
      have percent := fit.percent
      exact Bool.false_ne_true (percent.symm.trans itself)
    rw [Utf8.encode_ascii low, List.singleton_append, decodeBytes_cons bare]
  · exact readBack_escape b bytes

/-- What is written are plain characters, all below 128, and percent signs. -/
theorem of_mem_writeByte {b : UInt8} {c : Char} (mem : c ∈ writeByte plain b) :
    (c.toNat < 128 ∧ plain c = true) ∨ c = '%' := by
  have small := b.toNat_lt
  unfold writeByte at mem
  split at mem
  · next itself =>
    have low : b.toNat < 128 := fit.ascii b.toNat small itself
    obtain rfl := List.mem_singleton.1 mem
    rw [Utf8.toNat_charOfNat (.inl (by omega))]
    exact .inl ⟨low, itself⟩
  · simp only [escape, List.mem_cons, List.not_mem_nil, or_false] at mem
    rcases mem with rfl | rfl | rfl
    · exact .inr rfl
    · exact .inl ⟨hexDigit_lt _ (by omega), fit.digit _ (by omega)⟩
    · exact .inl ⟨hexDigit_lt _ (by omega), fit.digit _ (by omega)⟩

theorem of_mem_encode {s : String} {c : Char} (mem : c ∈ encode plain s) :
    (c.toNat < 128 ∧ plain c = true) ∨ c = '%' := by
  obtain ⟨b, -, mem⟩ := List.mem_flatMap.1 mem
  exact fit.of_mem_writeByte mem

theorem decode?_encode (s : String) : decode? (encode plain s) = some s.toList := by
  rw [decode?, encode, fit.readBack.decodeBytes_flatMap, Utf8.decode?_encode]

end Plain
end ApiContract.Percent
