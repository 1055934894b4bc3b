import ApiContract.Text.Utf8
import Mathlib.Data.List.Basic
import Mathlib.Data.List.TakeWhile

/-! # Decoding UTF-8

The decoder looks at a leading byte for the number of bytes to come and for bounds on the first of them
(`Utf8.shape?`).  The bounds leave out what is no character or has shorter bytes: `Utf8.Code` says so of the
code point instead, and the two agree (`Utf8.Completes.code`, `Utf8.Code.completes`).

A character is written as the bytes with its code point, and there are no others (`Utf8.code_encodeChar`,
`Utf8.Code.eq_encodeChar`).  So what is decoded are the bytes of texts, and each text from its own bytes
(`Utf8.decode?_eq_some_iff`). -/

namespace ApiContract.Utf8

/-- The bytes of one character, and its code point.  No code point has more bytes than it takes, and only
a character has any. -/
inductive Code : List UInt8 → Nat → Prop
  | one {a : UInt8} : a.toNat < 0x80 → Code [a] a.toNat
  | two {a b : UInt8} {n : Nat} : 0xC0 ≤ a.toNat → a.toNat < 0xE0 →
      isContinuation b = true → n = 64 * (a.toNat % 32) + b.toNat % 64 → 0x80 ≤ n → Code [a, b] n
  | three {a b c : UInt8} {n : Nat} : 0xE0 ≤ a.toNat → a.toNat < 0xF0 →
      isContinuation b = true → isContinuation c = true →
      n = 64 * (64 * (a.toNat % 16) + b.toNat % 64) + c.toNat % 64 → 0x800 ≤ n → n.isValidChar →
      Code [a, b, c] n
  | four {a b c d : UInt8} {n : Nat} : 0xF0 ≤ a.toNat → a.toNat < 0xF8 →
      isContinuation b = true → isContinuation c = true → isContinuation d = true →
      n = 64 * (64 * (64 * (a.toNat % 8) + b.toNat % 64) + c.toNat % 64) + d.toNat % 64 →
      0x10000 ≤ n → n < 0x110000 → Code [a, b, c, d] n

theorem isContinuation_iff {b : UInt8} :
    isContinuation b = true ↔ 0x80 ≤ b.toNat ∧ b.toNat ≤ 0xBF := by
  simp [isContinuation, UInt8.le_iff_toNat_le]

theorem exists_byte {n : Nat} (low : n < 256) : ∃ b : UInt8, b.toNat = n :=
  ⟨UInt8.ofNat n, UInt8.toNat_ofNat_of_lt' low⟩

theorem Code.isValidChar {bytes : List UInt8} {n : Nat} (code : Code bytes n) : n.isValidChar := by
  cases code with
  | one low => exact .inl (by omega)
  | two _ _ _ spelled _ => exact .inl (by omega)
  | three _ _ _ _ _ _ valid => exact valid
  | four _ _ _ _ _ _ least most => exact .inr ⟨by omega, most⟩

theorem code_encodeChar (c : Char) : Code (String.utf8EncodeChar c) c.toNat := by
  have valid : c.toNat.isValidChar := c.valid
  rw [String.utf8EncodeChar.eq_1, show c.val.toNat = c.toNat from rfl]
  generalize c.toNat = n at valid
  rcases Nat.lt_or_ge n 0x80 with small | large₁
  · rw [if_pos (by omega)]
    obtain ⟨b, rfl⟩ := exists_byte (n := n) (by omega)
    rw [UInt8.ofNat_toNat]
    exact .one small
  rw [if_neg (by omega)]
  rcases Nat.lt_or_ge n 0x800 with small | large₂
  · rw [if_pos (by omega)]
    refine .two ?_ ?_ (isContinuation_iff.2 ?_) ?_ large₁ <;>
    · simp only [UInt8.toNat_ofNat']
      omega
  rw [if_neg (by omega)]
  rcases Nat.lt_or_ge n 0x10000 with small | large₃
  · rw [if_pos (by omega)]
    refine .three ?_ ?_ (isContinuation_iff.2 ?_) (isContinuation_iff.2 ?_) ?_ large₂ valid <;>
    · simp only [UInt8.toNat_ofNat']
      omega
  · rw [if_neg (by omega)]
    have most : n < 0x110000 := by
      rcases valid with low | ⟨_, high⟩
      · omega
      · exact high
    refine .four ?_ ?_ (isContinuation_iff.2 ?_) (isContinuation_iff.2 ?_)
      (isContinuation_iff.2 ?_) ?_ large₃ most <;>
    · simp only [UInt8.toNat_ofNat']
      omega

theorem Code.eq_encodeChar {c : Char} {bytes : List UInt8} (code : Code bytes c.toNat) :
    bytes = String.utf8EncodeChar c := by
  rw [String.utf8EncodeChar.eq_1, show c.val.toNat = c.toNat from rfl]
  generalize c.toNat = n at code
  cases code with
  | one low => simp [if_pos (Nat.le_of_lt_succ low)]
  | @two a b _ low high next spelled least =>
      rw [isContinuation_iff] at next
      rw [if_neg (by omega), if_pos (by omega)]
      have ha : n / 64 % 32 + 192 = a.toNat := by omega
      have hb : n % 64 + 128 = b.toNat := by omega
      simp only [ha, hb, UInt8.ofNat_toNat]
  | @three a b c _ low high next last spelled least valid =>
      rw [isContinuation_iff] at next last
      rw [if_neg (by omega), if_neg (by omega), if_pos (by omega)]
      have ha : n / 4096 % 16 + 224 = a.toNat := by omega
      have hb : n / 64 % 64 + 128 = b.toNat := by omega
      have hc : n % 64 + 128 = c.toNat := by omega
      simp only [ha, hb, hc, UInt8.ofNat_toNat]
  | @four a b c d _ low high next third last spelled least most =>
      rw [isContinuation_iff] at next third last
      rw [if_neg (by omega), if_neg (by omega), if_neg (by omega)]
      have ha : n / 262144 % 8 + 240 = a.toNat := by omega
      have hb : n / 4096 % 64 + 128 = b.toNat := by omega
      have hc : n / 64 % 64 + 128 = c.toNat := by omega
      have hd : n % 64 + 128 = d.toNat := by omega
      simp only [ha, hb, hc, hd, UInt8.ofNat_toNat]

/-! ### The bytes that follow a leading byte -/

variable {lead low high : UInt8} {count : Nat} {more bytes : List UInt8}

/-- The number that a leading byte and those after it spell. -/
def value (lead : UInt8) (more : List UInt8) : Nat :=
  more.foldl (fun n b => 64 * n + b.toNat % 64) (leadBits lead more.length)

/-- A leading byte of some shape is complete with these bytes. -/
def Completes (lead : UInt8) (more : List UInt8) : Prop :=
  ∃ low high, shape? lead = some (more.length, low, high) ∧ tail more.length low high more = more

theorem tail_append (rest : List UInt8) :
    tail more.length low high (more ++ rest) = tail more.length low high more := by
  cases more with
  | nil => cases rest <;> rfl
  | cons b more => simp [tail]

theorem tail_prefix (count : Nat) (low high : UInt8) (bytes : List UInt8) :
    tail count low high bytes <+: bytes := by
  rw [tail.eq_def]
  split
  · next count b bytes =>
    split
    · exact (List.prefix_cons_inj b).2 ((List.takeWhile_prefix _).trans (List.take_prefix _ _))
    · exact List.nil_prefix
  · exact List.nil_prefix

theorem tail_eq_self_iff {b : UInt8} : tail (more.length + 1) low high (b :: more) = b :: more ↔
    (low.toNat ≤ b.toNat ∧ b.toNat ≤ high.toNat) ∧ ∀ c ∈ more, isContinuation c = true := by
  simp only [tail, List.take_length, Bool.and_eq_true, decide_eq_true_eq, UInt8.le_iff_toNat_le]
  split
  · next bounds => simp [bounds, List.takeWhile_eq_self_iff]
  · next bounds => simp [bounds]

/-- What a leading byte announces, with the bounds on the byte after it. -/
theorem shape?_eq_some_iff : shape? lead = some (count, low, high) ↔
    (count = 0 ∧ lead.toNat < 0x80 ∧ low.toNat = 0x80 ∧ high.toNat = 0xBF) ∨
    (count = 1 ∧ 0xC2 ≤ lead.toNat ∧ lead.toNat < 0xE0 ∧ low.toNat = 0x80 ∧ high.toNat = 0xBF) ∨
    (count = 2 ∧ 0xE0 ≤ lead.toNat ∧ lead.toNat < 0xF0 ∧
      low.toNat = (if lead.toNat = 0xE0 then 0xA0 else 0x80) ∧
      high.toNat = (if lead.toNat = 0xED then 0x9F else 0xBF)) ∨
    (count = 3 ∧ 0xF0 ≤ lead.toNat ∧ lead.toNat < 0xF5 ∧
      low.toNat = (if lead.toNat = 0xF0 then 0x90 else 0x80) ∧
      high.toNat = (if lead.toNat = 0xF4 then 0x8F else 0xBF)) := by
  simp only [shape?, UInt8.lt_iff_toNat_lt, ← UInt8.toNat_inj, UInt8.reduceToNat]
  split_ifs <;>
  simp only [Option.some.injEq, Prod.mk.injEq, ← UInt8.toNat_inj, UInt8.reduceToNat, false_iff] <;>
  omega

/-- What completes a leading byte spells a character: the lower bound on the byte after it keeps out code points
with shorter bytes, and the upper one surrogates and what lies beyond the last code point. -/
theorem Completes.code (complete : Completes lead more) : Code (lead :: more) (value lead more) := by
  obtain ⟨low, high, shape, tail⟩ := complete
  rcases shape?_eq_some_iff.1 shape with ⟨none, small, -⟩ | ⟨one, least, most, start, stop⟩ |
    ⟨two, least, most, start, stop⟩ | ⟨three, least, most, start, stop⟩
  · obtain rfl := List.length_eq_zero_iff.1 none
    exact .one small
  · obtain ⟨b, rfl⟩ := List.length_eq_one_iff.1 one
    obtain ⟨bounds, -⟩ := tail_eq_self_iff.1 tail
    refine .two (by omega) most (isContinuation_iff.2 (by omega)) rfl ?_
    simp only [value, leadBits, List.length_cons, List.length_nil, List.foldl_cons, List.foldl_nil]
    omega
  · obtain ⟨b, c, rfl⟩ := List.length_eq_two.1 two
    obtain ⟨bounds, rest⟩ := tail_eq_self_iff.1 tail
    have last := isContinuation_iff.1 (rest c (by simp))
    have spelled : value lead [b, c] =
      64 * (64 * (lead.toNat % 16) + b.toNat % 64) + c.toNat % 64 := rfl
    refine .three (by omega) most (isContinuation_iff.2 ?_) (rest c (by simp)) spelled ?_ ?_
    · split_ifs at start stop <;> omega
    · split_ifs at start stop <;> omega
    · rw [Nat.isValidChar]
      split_ifs at start stop <;> omega
  · obtain ⟨b, c, d, rfl⟩ := List.length_eq_three.1 three
    obtain ⟨bounds, rest⟩ := tail_eq_self_iff.1 tail
    have third := isContinuation_iff.1 (rest c (by simp))
    have last := isContinuation_iff.1 (rest d (by simp))
    have spelled : value lead [b, c, d] = 64 * (64 * (64 * (lead.toNat % 8) + b.toNat % 64) +
      c.toNat % 64) + d.toNat % 64 := rfl
    refine .four (by omega) (by omega) (isContinuation_iff.2 ?_) (rest c (by simp))
      (rest d (by simp)) spelled ?_ ?_ <;>
    · split_ifs at start stop <;> omega

theorem Code.completes {n : Nat} (code : Code (lead :: more) n) :
    Completes lead more ∧ value lead more = n := by
  cases code with
  | one small =>
      exact ⟨⟨0x80, 0xBF, shape?_eq_some_iff.2 (.inl ⟨rfl, small, rfl, rfl⟩), rfl⟩, rfl⟩
  | two least most next spelled large =>
      rw [isContinuation_iff] at next
      have shape : shape? lead = some (1, 0x80, 0xBF) :=
        shape?_eq_some_iff.2 (.inr (.inl ⟨rfl, by omega, most, rfl, rfl⟩))
      exact ⟨⟨0x80, 0xBF, shape, tail_eq_self_iff.2 ⟨next, by simp⟩⟩, spelled.symm⟩
  | three least most next last spelled large valid =>
      rw [isContinuation_iff] at next
      have last_byte := isContinuation_iff.1 last
      obtain ⟨low, start⟩ := exists_byte (n := if lead.toNat = 0xE0 then 0xA0 else 0x80)
        (by split <;> decide)
      obtain ⟨high, stop⟩ := exists_byte (n := if lead.toNat = 0xED then 0x9F else 0xBF)
        (by split <;> decide)
      have shape := shape?_eq_some_iff.2 (.inr (.inr (.inl ⟨rfl, least, most, start, stop⟩)))
      refine ⟨⟨low, high, shape, tail_eq_self_iff.2 ⟨?_, by simpa using last⟩⟩, spelled.symm⟩
      rw [Nat.isValidChar] at valid
      split_ifs at start stop <;> omega
  | four least most next third last spelled large valid =>
      rw [isContinuation_iff] at next
      have third_byte := isContinuation_iff.1 third
      have last_byte := isContinuation_iff.1 last
      obtain ⟨low, start⟩ := exists_byte (n := if lead.toNat = 0xF0 then 0x90 else 0x80)
        (by split <;> decide)
      obtain ⟨high, stop⟩ := exists_byte (n := if lead.toNat = 0xF4 then 0x8F else 0xBF)
        (by split <;> decide)
      have shape := shape?_eq_some_iff.2 (.inr (.inr (.inr ⟨rfl, least, by omega, start, stop⟩)))
      refine ⟨⟨low, high, shape, tail_eq_self_iff.2 ⟨?_, by simpa using ⟨third, last⟩⟩⟩, spelled.symm⟩
      split_ifs at start stop <;> omega

/-! ### Reading one character, and all of them -/

theorem toNat_charOfNat {n : Nat} (valid : n.isValidChar) : (Char.ofNat n).toNat = n := by
  rw [Char.ofNat, dif_pos valid]
  rfl

theorem encode_ascii {b : UInt8} (low : b.toNat < 128) : encode [Char.ofNat b.toNat] = [b] := by
  have number : (Char.ofNat b.toNat).toNat = b.toNat := toNat_charOfNat (.inl (by omega))
  have code : Code [b] (Char.ofNat b.toNat).toNat := by
    rw [number]
    exact .one low
  rw [encode, List.flatMap_singleton, ← code.eq_encodeChar]

/-- The next character is the one whose bytes come first. -/
theorem next_eq_some_iff {c : Char} : next lead bytes = (some c, count) ↔
    ∃ more rest, bytes = more ++ rest ∧ more.length = count ∧
      lead :: more = String.utf8EncodeChar c := by
  constructor
  · intro read
    rw [next] at read
    split at read
    · cases read
    · next k low high shape =>
      simp only at read
      split at read
      · next full =>
        obtain ⟨rest, front⟩ := tail_prefix k low high bytes
        generalize more_eq : tail k low high bytes = more at full front read
        obtain rfl := full
        cases read
        refine ⟨more, rest, front.symm, rfl, ?_⟩
        have complete : Completes lead more := by
          refine ⟨low, high, shape, ?_⟩
          rwa [← front, tail_append] at more_eq
        refine Code.eq_encodeChar ?_
        rw [← value, toNat_charOfNat complete.code.isValidChar]
        exact complete.code
      · cases read
  · rintro ⟨more, rest, rfl, rfl, bytes⟩
    have code : Code (lead :: more) c.toNat := bytes ▸ code_encodeChar c
    obtain ⟨⟨low, high, shape, tail⟩, spelled⟩ := code.completes
    simp only [next, shape, tail_append, tail, if_true]
    rw [← value, spelled, Char.ofNat_toNat]

theorem decode?_nil : decode? [] = some [] := by
  rw [decode?, decodeEach]
  rfl

theorem decode?_cons (lead : UInt8) (bytes : List UInt8) : decode? (lead :: bytes) =
    (next lead bytes).1.bind fun c =>
      (decode? (bytes.drop (next lead bytes).2)).map (c :: ·) := by
  rw [decode?, decodeEach, List.mapM_cons]
  simp only [decode?, Option.map_eq_bind, Function.comp_def, id, bind, pure]

theorem decode?_encode (cs : List Char) : decode? (encode cs) = some cs := by
  induction cs with
  | nil => exact decode?_nil
  | cons c cs ih =>
      obtain ⟨lead, more, bytes⟩ : ∃ lead more, String.utf8EncodeChar c = lead :: more :=
        List.exists_cons_of_ne_nil String.utf8EncodeChar_ne_nil
      have first : next lead (more ++ encode cs) = (some c, more.length) :=
        next_eq_some_iff.2 ⟨more, _, rfl, rfl, bytes.symm⟩
      have spelled : encode (c :: cs) = lead :: (more ++ encode cs) := by
        rw [encode, List.flatMap_cons, bytes, ← encode, List.cons_append]
      rw [spelled, decode?_cons, first, List.drop_left, ih]
      rfl

theorem decode?_eq_some_iff {cs : List Char} : decode? bytes = some cs ↔ bytes = encode cs := by
  refine ⟨fun read => ?_, fun encoded => encoded ▸ decode?_encode cs⟩
  fun_induction decodeEach bytes generalizing cs with
  | case1 =>
      rw [decode?_nil] at read
      cases read
      rfl
  | case2 lead bytes ih =>
      rw [decode?_cons] at read
      obtain ⟨c, first, read⟩ := Option.bind_eq_some_iff.1 read
      obtain ⟨ds, later, rfl⟩ := Option.map_eq_some_iff.1 read
      have read : next lead bytes = (some c, (next lead bytes).2) := Prod.ext first rfl
      obtain ⟨more, rest, front, count, char⟩ := next_eq_some_iff.1 read
      have encoded := ih later
      rw [← count, front, List.drop_left] at encoded
      rw [front, encoded, encode, encode, List.flatMap_cons, ← char, List.cons_append]

theorem decodeLossy_of_decode? {cs : List Char} (read : decode? bytes = some cs) :
    decodeLossy bytes = cs := by
  fun_induction decodeEach bytes generalizing cs with
  | case1 =>
      rw [decode?_nil] at read
      cases read
      rw [decodeLossy, decodeEach]
      rfl
  | case2 lead bytes ih =>
      rw [decode?_cons] at read
      obtain ⟨c, first, read⟩ := Option.bind_eq_some_iff.1 read
      obtain ⟨ds, later, rfl⟩ := Option.map_eq_some_iff.1 read
      rw [decodeLossy, decodeEach, List.map_cons, ← decodeLossy, first, ih later]
      rfl

theorem decodeLossy_encode (cs : List Char) : decodeLossy (encode cs) = cs :=
  decodeLossy_of_decode? (decode?_encode cs)

end ApiContract.Utf8
