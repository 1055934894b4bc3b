import ApiContract.Proofs.Ascii
import ApiContract.Text.Base64
import Mathlib.Data.List.Basic

/-! # Encoding in Base64

`Base64.encode` writes bytes in the standard alphabet, three of them as four characters.  What is decoded is
what has been encoded, and nothing else (`Base64.decode?_eq_some_iff`): no list of bytes has two encodings,
and no encoding is refused. -/

namespace ApiContract.Base64

/-- The characters that stand for 0 to 63. -/
def alphabet : List Char :=
  "ABCDEFGHIJKLMNOPQRSTUVWXYZabcdefghijklmnopqrstuvwxyz0123456789+/".toList

/-- The character that stands for a number below 64. -/
def digit (n : Nat) : Char := alphabet.getD n '='

/-- The encoding of a list of bytes. -/
def encode : List UInt8 → List Char
  | [] => []
  | [x] => [digit (x.toNat / 4), digit (x.toNat % 4 * 16), '=', '=']
  | [x, y] =>
    [digit (x.toNat / 4), digit (x.toNat % 4 * 16 + y.toNat / 16), digit (y.toNat % 16 * 4), '=']
  | x :: y :: z :: rest =>
    digit (x.toNat / 4) :: digit (x.toNat % 4 * 16 + y.toNat / 16) ::
      digit (y.toNat % 16 * 4 + z.toNat / 64) :: digit (z.toNat % 64) :: encode rest

/-! ### One character -/

theorem value?_digit : ∀ n < 64, value? (digit n) = some n := by decide +kernel

theorem value?_eq_some_iff {c : Char} {n : Nat} : value? c = some n ↔ n < 64 ∧ c = digit n := by
  refine ⟨fun found => ?_, ?_⟩
  · have low : c.toNat < 128 := by
      have below {d : Char} (h : c ≤ d) : c.toNat ≤ d.toNat := UInt32.le_iff_toNat_le.1 h
      simp only [value?] at found
      split at found
      · next h => exact Nat.lt_of_le_of_lt (below h.2) (by decide)
      split at found
      · next h => exact Nat.lt_of_le_of_lt (below h.2) (by decide)
      split at found
      · next h => exact Nat.lt_of_le_of_lt (below h.2) (by decide)
      split at found
      · next h => rw [h]; decide
      split at found
      · next h => rw [h]; decide
      · cases found
    have table : ∀ m ∈ value? c, m < 64 ∧ c = digit m :=
      Text.forall_ascii (P := fun c => ∀ m ∈ value? c, m < 64 ∧ c = digit m)
        (by decide +kernel) c low
    exact table n found
  · rintro ⟨low, rfl⟩
    exact value?_digit n low

theorem digit_ne {n : Nat} (low : n < 64) : digit n ≠ '=' := by
  revert n
  decide +kernel

/-! ### One group

The bytes of a group and its characters have the same bits, eight to a byte and six to a character. -/

variable {a b c d : Char} {bytes : List UInt8}

theorem oneByte?_eq_some_iff : oneByte? a b = some bytes ↔ ∃ x : UInt8, bytes = [x] ∧
    a = digit (x.toNat / 4) ∧ b = digit (x.toNat % 4 * 16) := by
  constructor
  · intro found
    simp only [oneByte?, bind, Option.bind_eq_some_iff, value?_eq_some_iff] at found
    obtain ⟨m, ⟨hm, rfl⟩, n, ⟨hn, rfl⟩, found⟩ := found
    split at found
    · cases found
      refine ⟨_, rfl, ?_, ?_⟩ <;>
      · simp only [UInt8.toNat_ofNat']
        congr 1
        omega
    · cases found
  · rintro ⟨x, rfl, rfl, rfl⟩
    have small := x.toNat_lt
    have same : 4 * (x.toNat / 4) + x.toNat % 4 * 16 / 16 = x.toNat := by omega
    simp only [oneByte?, bind, value?_digit (x.toNat / 4) (by omega),
      value?_digit (x.toNat % 4 * 16) (by omega), Option.bind_some, same, UInt8.ofNat_toNat]
    exact if_pos (by omega)

theorem twoBytes?_eq_some_iff : twoBytes? a b c = some bytes ↔ ∃ x y : UInt8, bytes = [x, y] ∧
    a = digit (x.toNat / 4) ∧ b = digit (x.toNat % 4 * 16 + y.toNat / 16) ∧
    c = digit (y.toNat % 16 * 4) := by
  constructor
  · intro found
    simp only [twoBytes?, bind, Option.bind_eq_some_iff, value?_eq_some_iff] at found
    obtain ⟨m, ⟨hm, rfl⟩, n, ⟨hn, rfl⟩, k, ⟨hk, rfl⟩, found⟩ := found
    split at found
    · cases found
      refine ⟨_, _, rfl, ?_, ?_, ?_⟩ <;>
      · simp only [UInt8.toNat_ofNat']
        congr 1
        omega
    · cases found
  · rintro ⟨x, y, rfl, rfl, rfl, rfl⟩
    have := x.toNat_lt
    have := y.toNat_lt
    have hx : 4 * (x.toNat / 4) + (x.toNat % 4 * 16 + y.toNat / 16) / 16 = x.toNat := by omega
    have hy : 16 * ((x.toNat % 4 * 16 + y.toNat / 16) % 16) + y.toNat % 16 * 4 / 4 = y.toNat := by
      omega
    simp only [twoBytes?, bind, value?_digit (x.toNat / 4) (by omega),
      value?_digit (x.toNat % 4 * 16 + y.toNat / 16) (by omega),
      value?_digit (y.toNat % 16 * 4) (by omega), Option.bind_some, hx, hy, UInt8.ofNat_toNat]
    exact if_pos (by omega)

theorem threeBytes?_eq_some_iff : threeBytes? a b c d = some bytes ↔ ∃ x y z : UInt8,
    bytes = [x, y, z] ∧ a = digit (x.toNat / 4) ∧ b = digit (x.toNat % 4 * 16 + y.toNat / 16) ∧
    c = digit (y.toNat % 16 * 4 + z.toNat / 64) ∧ d = digit (z.toNat % 64) := by
  constructor
  · intro found
    simp only [threeBytes?, bind, Option.bind_eq_some_iff, value?_eq_some_iff] at found
    obtain ⟨m, ⟨hm, rfl⟩, n, ⟨hn, rfl⟩, k, ⟨hk, rfl⟩, l, ⟨hl, rfl⟩, found⟩ := found
    cases found
    refine ⟨_, _, _, rfl, ?_, ?_, ?_, ?_⟩ <;>
    · simp only [UInt8.toNat_ofNat']
      congr 1
      omega
  · rintro ⟨x, y, z, rfl, rfl, rfl, rfl, rfl⟩
    have := x.toNat_lt
    have := y.toNat_lt
    have := z.toNat_lt
    have hx : 4 * (x.toNat / 4) + (x.toNat % 4 * 16 + y.toNat / 16) / 16 = x.toNat := by omega
    have hy : 16 * ((x.toNat % 4 * 16 + y.toNat / 16) % 16) + (y.toNat % 16 * 4 + z.toNat / 64) / 4 =
        y.toNat := by omega
    have hz : 64 * ((y.toNat % 16 * 4 + z.toNat / 64) % 4) + z.toNat % 64 = z.toNat := by omega
    simp only [threeBytes?, bind, value?_digit (x.toNat / 4) (by omega),
      value?_digit (x.toNat % 4 * 16 + y.toNat / 16) (by omega),
      value?_digit (y.toNat % 16 * 4 + z.toNat / 64) (by omega),
      value?_digit (z.toNat % 64) (by omega), Option.bind_some, hx, hy, hz, UInt8.ofNat_toNat]
    rfl

/-! ### A whole text -/

/-- A group that is not padded stands in front of what is decoded alone, also if nothing follows. -/
theorem decode?_cons (a b c : Char) {d : Char} (full : d ≠ '=') (cs : List Char) :
    decode? (a :: b :: c :: d :: cs) =
      (threeBytes? a b c d).bind fun bytes => (decode? cs).map (bytes ++ ·) := by
  cases cs with
  | nil => simp [decode?, full]
  | cons e cs => simp only [decode?, bind, pure, Option.map_eq_bind, Function.comp_def]

theorem decode?_encode (bytes : List UInt8) : decode? (encode bytes) = some bytes := by
  fun_induction encode bytes with
  | case1 => rfl
  | case2 x =>
      have group := oneByte?_eq_some_iff.2 ⟨x, rfl, rfl, rfl⟩
      exact (if_pos rfl).trans ((if_pos rfl).trans group)
  | case3 x y =>
      have := y.toNat_lt
      have full : digit (y.toNat % 16 * 4) ≠ '=' := digit_ne (by omega)
      have group := twoBytes?_eq_some_iff.2 ⟨x, y, rfl, rfl, rfl, rfl⟩
      exact (if_pos rfl).trans ((if_neg full).trans group)
  | case4 x y z rest ih =>
      have group := threeBytes?_eq_some_iff.2 ⟨x, y, z, rfl, rfl, rfl, rfl, rfl⟩
      rw [decode?_cons _ _ _ (digit_ne (by omega)), group, ih]
      rfl

theorem decode?_eq_some_iff {cs : List Char} {bytes : List UInt8} :
    decode? cs = some bytes ↔ cs = encode bytes := by
  refine ⟨fun found => ?_, fun encoded => encoded ▸ decode?_encode bytes⟩
  fun_induction decode? cs generalizing bytes with
  | case1 =>
      cases found
      rfl
  | case2 a b =>
      obtain ⟨x, rfl, rfl, rfl⟩ := oneByte?_eq_some_iff.1 found
      rfl
  | case3 a b c padded =>
      obtain ⟨x, y, rfl, rfl, rfl, rfl⟩ := twoBytes?_eq_some_iff.1 found
      rfl
  | case4 a b c d full =>
      obtain ⟨x, y, z, rfl, rfl, rfl, rfl, rfl⟩ := threeBytes?_eq_some_iff.1 found
      rfl
  | case5 a b c d rest other ih =>
      obtain ⟨group, first, found⟩ := Option.bind_eq_some_iff.1 found
      obtain ⟨more, later, found⟩ := Option.bind_eq_some_iff.1 found
      cases found
      obtain ⟨x, y, z, rfl, rfl, rfl, rfl, rfl⟩ := threeBytes?_eq_some_iff.1 first
      rw [ih later]
      rfl
  | case6 => cases found

end ApiContract.Base64
