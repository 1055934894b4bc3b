import ApiContract.Calendar
import Mathlib.Data.List.Induction
import Mathlib.Algebra.Ring.Nat

/-! # The texts of dates

`Calendar.dateText` writes a day with four digits for the year and two each for month and day.  What is
recognised as a date is exactly what is written so for some day of the calendar (`isDateText_iff`).

Decimal digits are read and written digit by digit from the right: a number of a given width is the
digits before the last one, at the width less one, and the last digit (`padded_succ`). -/

namespace ApiContract

namespace Text

/-- A number in decimal digits, with zeros in front up to a width. -/
def padded (width n : Nat) : List Char := (Nat.toDigits 10 n).leftpad width '0'

theorem length_padded {width n : Nat} (positive : 0 < width) (fits : n < 10 ^ width) :
    (padded width n).length = width := by
  have short := (Nat.length_toDigits_le_iff (by omega) positive).2 fits
  rw [padded, List.length_leftpad, Nat.max_eq_left short]

theorem padded_one {d : Nat} (digit : d < 10) : padded 1 d = [d.digitChar] := by
  rw [padded, Nat.toDigits_of_lt_base digit]
  rfl

theorem padded_succ {width m d : Nat} (positive : 0 < width) (digit : d < 10) :
    padded (width + 1) (10 * m + d) = padded width m ++ [d.digitChar] := by
  obtain ⟨w, rfl⟩ := Nat.exists_eq_succ_of_ne_zero (Nat.ne_of_gt positive)
  rcases Nat.eq_zero_or_pos m with rfl | more
  · rw [Nat.mul_zero, Nat.zero_add, padded, padded, Nat.toDigits_of_lt_base digit, Nat.toDigits_zero]
    simp only [List.leftpad, List.length_singleton, Nat.succ_eq_add_one, Nat.add_sub_cancel]
    rw [← List.replicate_succ' (n := w)]
  · rw [padded, padded, ← Nat.toDigits_append_toDigits (by omega) more digit,
      Nat.toDigits_of_lt_base digit]
    simp only [List.leftpad, List.length_append, List.length_singleton, Nat.add_sub_add_right,
      List.append_assoc]

theorem digitChar_of_isDigit {c : Char} (digit : c.isDigit = true) :
    ∃ d < 10, c = Nat.digitChar d ∧ c.toNat - '0'.toNat = d := by
  obtain ⟨low, high⟩ := Char.isDigit_iff_toNat.1 digit
  have zero : '0'.toNat = 48 := rfl
  have nine : '9'.toNat = 57 := rfl
  refine ⟨c.toNat - '0'.toNat, by omega, ?_, rfl⟩
  refine Char.ext_iff.2 (UInt32.toNat_inj.1 ?_)
  show c.toNat = (Nat.digitChar (c.toNat - '0'.toNat)).toNat
  rw [Nat.toNat_digitChar_of_lt_ten (by omega)]
  omega

/-- Digits are the number that they denote, written at their own width. -/
theorem padded_ofDigitChars {cs : List Char} (some_digit : cs ≠ [])
    (digits : ∀ c ∈ cs, c.isDigit = true) :
    Nat.ofDigitChars 10 cs 0 < 10 ^ cs.length ∧ cs = padded cs.length (Nat.ofDigitChars 10 cs 0) := by
  induction cs using List.reverseRecOn with
  | nil => exact absurd rfl some_digit
  | append_singleton ds c ih =>
      obtain ⟨d, lt, rfl, value⟩ := digitChar_of_isDigit (digits c (by simp))
      have last : Nat.ofDigitChars 10 (ds ++ [d.digitChar]) 0 = 10 * Nat.ofDigitChars 10 ds 0 + d := by
        rw [Nat.ofDigitChars_append, Nat.ofDigitChars_cons, Nat.ofDigitChars_nil, value]
      rw [last, List.length_append, List.length_singleton]
      rcases ds.eq_nil_or_concat with rfl | more
      · exact ⟨by simpa using lt, by simpa using (padded_one lt).symm⟩
      · have before : ds ≠ [] := by
          obtain ⟨es, e, rfl⟩ := more
          simp
        obtain ⟨fits, same⟩ := ih before fun c hc => digits c (List.mem_append_left _ hc)
        refine ⟨by rw [Nat.pow_succ]; omega, ?_⟩
        rw [padded_succ (List.length_pos_iff.2 before) lt, ← same]

theorem isDigit_of_mem_padded {width n : Nat} {c : Char} (mem : c ∈ padded width n) :
    c.isDigit = true := by
  rw [padded, List.leftpad, List.mem_append] at mem
  rcases mem with zero | digit
  · rw [List.eq_of_mem_replicate zero]
    rfl
  · exact Nat.isDigit_of_mem_toDigits (by omega) (by omega) digit

theorem decimal?_eq_some_iff {cs : List Char} {n : Nat} :
    decimal? cs = some n ↔ cs ≠ [] ∧ n < 10 ^ cs.length ∧ cs = padded cs.length n := by
  unfold decimal?
  constructor
  · intro h
    split at h
    · cases h
    · next digits =>
      simp only [Bool.or_eq_true, List.isEmpty_iff, Bool.not_eq_true', not_or, Bool.not_eq_false,
        List.all_eq_true] at digits
      obtain rfl := Option.some.inj h
      obtain ⟨fits, same⟩ := padded_ofDigitChars digits.1 digits.2
      exact ⟨digits.1, fits, same⟩
  · rintro ⟨some_digit, fits, same⟩
    have digits : ∀ c ∈ cs, c.isDigit = true := fun c mem => isDigit_of_mem_padded (same ▸ mem)
    have value : Nat.ofDigitChars 10 cs 0 = n := by
      rw [same, padded, List.leftpad, Nat.ofDigitChars_append, Nat.ofDigitChars_replicate_zero,
        Nat.mul_zero, Nat.ofDigitChars_ten_toDigits]
    rw [if_neg (by simpa [some_digit] using digits)]
    exact congrArg some value

theorem decimal?_padded {width n : Nat} (positive : 0 < width) (fits : n < 10 ^ width) :
    decimal? (padded width n) = some n := by
  have length := length_padded positive fits
  refine decimal?_eq_some_iff.2 ⟨?_, ?_, ?_⟩
  · exact List.ne_nil_of_length_pos (by rw [length]; exact positive)
  · rw [length]
    exact fits
  · rw [length]

theorem padded_inj {width m n : Nat} (positive : 0 < width) (hm : m < 10 ^ width)
    (hn : n < 10 ^ width) (same : padded width m = padded width n) : m = n := by
  have read := decimal?_padded positive hm
  rw [same, decimal?_padded positive hn] at read
  exact (Option.some.inj read).symm

theorem padded_append_inj {width m n : Nat} (positive : 0 < width) (hm : m < 10 ^ width)
    (hn : n < 10 ^ width) {as bs : List Char} (same : padded width m ++ as = padded width n ++ bs) :
    m = n ∧ as = bs := by
  have lengths : (padded width m).length = (padded width n).length := by
    rw [length_padded positive hm, length_padded positive hn]
  obtain ⟨front, rest⟩ := List.append_inj same lengths
  exact ⟨padded_inj positive hm hn front, rest⟩

end Text

namespace Calendar

/-- The text of a day. -/
def dateText (year month day : Nat) : List Char :=
  Text.padded 4 year ++ '-' :: Text.padded 2 month ++ '-' :: Text.padded 2 day

/-- A day of the calendar, in a year of at most four digits. -/
structure IsDay (year month day : Nat) : Prop where
  year_le : year ≤ 9999
  month_pos : 1 ≤ month
  month_le : month ≤ 12
  day_pos : 1 ≤ day
  day_le : day ≤ daysInMonth year month

theorem daysInMonth_le (year month : Nat) : daysInMonth year month ≤ 31 := by
  unfold daysInMonth
  split
  · split <;> omega
  · split
    · omega
    · split <;> omega

theorem month_of_day_le {year month day : Nat} (day_pos : 1 ≤ day)
    (day_le : day ≤ daysInMonth year month) : 1 ≤ month ∧ month ≤ 12 := by
  unfold daysInMonth at day_le
  split at day_le
  · omega
  · split at day_le
    · omega
    · split at day_le <;> omega

theorem IsDay.fits {year month day : Nat} (valid : IsDay year month day) :
    year < 10 ^ 4 ∧ month < 10 ^ 2 ∧ day < 10 ^ 2 := by
  refine ⟨Nat.lt_succ_of_le valid.year_le, Nat.lt_of_le_of_lt valid.month_le (by decide), ?_⟩
  exact Nat.lt_of_le_of_lt (Nat.le_trans valid.day_le (daysInMonth_le year month)) (by decide)

theorem IsDay.length_dateText {year month day : Nat} (valid : IsDay year month day) :
    (dateText year month day).length = 10 := by
  obtain ⟨year_lt, month_lt, day_lt⟩ := valid.fits
  simp only [dateText, List.length_append, List.length_cons, Text.length_padded (by decide) year_lt,
    Text.length_padded (by decide) month_lt, Text.length_padded (by decide) day_lt]

theorem IsDay.dateText_inj {y m d y' m' d' : Nat} (valid : IsDay y m d) (valid' : IsDay y' m' d')
    (same : dateText y m d = dateText y' m' d') : y = y' ∧ m = m' ∧ d = d' := by
  obtain ⟨hy, hm, hd⟩ := valid.fits
  obtain ⟨hy', hm', hd'⟩ := valid'.fits
  unfold dateText at same
  rw [List.append_assoc, List.append_assoc] at same
  obtain ⟨year, same⟩ := Text.padded_append_inj (by decide) hy hy' same
  obtain ⟨-, same⟩ := List.cons.inj same
  obtain ⟨month, same⟩ := Text.padded_append_inj (by decide) hm hm' same
  obtain ⟨-, day⟩ := List.cons.inj same
  exact ⟨year, month, Text.padded_inj (by decide) hd hd' day⟩

/-- A date is recognised by the numbers that its three groups of digits denote. -/
theorem isDateText_groups {ys ms ds : List Char} (four : ys.length = 4) (two : ms.length = 2)
    (two' : ds.length = 2) : isDateText (ys ++ '-' :: ms ++ '-' :: ds) =
      match Text.decimal? ys, Text.decimal? ms, Text.decimal? ds with
      | some year, some month, some day => isDate year month day
      | _, _, _ => false := by
  match ys, ms, ds, four, two, two' with
  | [_, _, _, _], [_, _], [_, _], _, _, _ => rfl

theorem isDateText_iff {cs : List Char} :
    isDateText cs = true ↔ ∃ year month day, IsDay year month day ∧ cs = dateText year month day := by
  constructor
  · intro h
    unfold isDateText at h
    split at h
    · next y1 y2 y3 y4 m1 m2 d1 d2 =>
      split at h
      · next year month day hy hm hd =>
        obtain ⟨-, year_lt, year_eq⟩ := Text.decimal?_eq_some_iff.1 hy
        obtain ⟨-, -, month_eq⟩ := Text.decimal?_eq_some_iff.1 hm
        obtain ⟨-, -, day_eq⟩ := Text.decimal?_eq_some_iff.1 hd
        have year_lt : year < 10 ^ 4 := year_lt
        have year_text : [y1, y2, y3, y4] = Text.padded 4 year := year_eq
        have month_text : [m1, m2] = Text.padded 2 month := month_eq
        have day_text : [d1, d2] = Text.padded 2 day := day_eq
        simp only [isDate, Bool.and_eq_true, decide_eq_true_eq] at h
        obtain ⟨month_pos, month_le⟩ := month_of_day_le h.1 h.2
        refine ⟨year, month, day, ⟨by omega, month_pos, month_le, h.1, h.2⟩, ?_⟩
        rw [dateText, ← year_text, ← month_text, ← day_text]
        rfl
      · cases h
    · cases h
  · rintro ⟨year, month, day, valid, rfl⟩
    obtain ⟨year_lt, month_lt, day_lt⟩ := valid.fits
    rw [dateText, isDateText_groups (Text.length_padded (by decide) year_lt)
      (Text.length_padded (by decide) month_lt) (Text.length_padded (by decide) day_lt),
      Text.decimal?_padded (by decide) year_lt, Text.decimal?_padded (by decide) month_lt,
      Text.decimal?_padded (by decide) day_lt]
    simp only [isDate, valid.day_pos, valid.day_le, decide_true, Bool.and_self]

end Calendar
end ApiContract
