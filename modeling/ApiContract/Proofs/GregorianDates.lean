import ApiContract.Proofs.Moment
import Mathlib.Tactic.Common

/-! # Dates of the Gregorian calendar

The type of dates reads the texts `YYYY-MM-DD` of the days that the proleptic Gregorian calendar has in the
years 0 to 9999, as they are, and refuses every other value (`Descriptor.coerce_date_iff`).

The calendar is that of `Std.Time.PlainDate`, dates that are valid by their type.  A month has as many days
there as in `daysInMonth` (`daysInMonth_eq`), and so both have the same days (`isDay_iff`).

A date may also be looked for in two steps: first the shape, with decimal digits of any script, and then the
numbers, for which only ASCII digits will do.  The second step makes up for what the first lets through
(`isDateText_eq_any_dateGroups?`). -/

namespace ApiContract

namespace Calendar
open Std.Time

/-! ### The days of the calendar -/

theorem isLeapYear_eq (year : Nat) : isLeapYear year = (Year.Offset.ofNat year).isLeap := by
  have four : Int.tmod year 4 = (year % 4 : Nat) := rfl
  have hundred : Int.tmod year 100 = (year % 100 : Nat) := rfl
  have four_hundred : Int.tmod year 400 = (year % 400 : Nat) := rfl
  show isLeapYear year =
    decide (Int.tmod year 4 = 0 ∧ (Int.tmod year 100 ≠ 0 ∨ Int.tmod year 400 = 0))
  rw [four, hundred, four_hundred, isLeapYear, Bool.eq_iff_iff]
  simp only [Bool.or_eq_true, Bool.and_eq_true, beq_iff_eq, bne_iff_ne, decide_eq_true_eq]
  omega

theorem daysInMonth_eq (year : Nat) (month : Month.Ordinal) :
    daysInMonth year month.val.toNat = (month.days (Year.Offset.ofNat year).isLeap).val := by
  rw [daysInMonth, isLeapYear_eq]
  generalize (Year.Offset.ofNat year).isLeap = leap
  match month with
  | ⟨1, _⟩ | ⟨2, _⟩ | ⟨3, _⟩ | ⟨4, _⟩ | ⟨5, _⟩ | ⟨6, _⟩ | ⟨7, _⟩ | ⟨8, _⟩ | ⟨9, _⟩ | ⟨10, _⟩
  | ⟨11, _⟩ | ⟨12, _⟩ => cases leap <;> rfl

theorem isDay_iff {year month day : Nat} : IsDay year month day ↔
    year ≤ 9999 ∧ ∃ date : PlainDate, date.year.toInt = year ∧ date.month.val = month ∧
      date.day.val = day := by
  constructor
  · intro valid
    have month_pos := valid.month_pos
    have month_le := valid.month_le
    have day_pos := valid.day_pos
    have day_le := Nat.le_trans valid.day_le (daysInMonth_le year month)
    let m : Month.Ordinal := ⟨month, by omega, by omega⟩
    let d : Day.Ordinal := ⟨day, by omega, by omega⟩
    have exists_day : d ≤ m.days (Year.Offset.ofNat year).isLeap := by
      show (day : Int) ≤ (m.days (Year.Offset.ofNat year).isLeap).val
      rw [← daysInMonth_eq]
      exact Int.ofNat_le.2 valid.day_le
    exact ⟨valid.year_le, ⟨Year.Offset.ofNat year, m, d, exists_day⟩, rfl, rfl, rfl⟩
  · rintro ⟨year_le, date, same_year, same_month, same_day⟩
    obtain ⟨month_pos, month_le⟩ := date.month.property
    obtain ⟨day_pos, -⟩ := date.day.property
    have year_eq : date.year = Year.Offset.ofNat year := same_year
    have month_eq : date.month.val.toNat = month := by omega
    have day_le : date.day.val ≤ (date.month.days date.year.isLeap).val := date.valid
    rw [year_eq, ← daysInMonth_eq, month_eq] at day_le
    exact ⟨year_le, by omega, by omega, by omega, by omega⟩

/-- The text of a date, for years from 0 to 9999. -/
def gregorianText (date : PlainDate) : List Char :=
  dateText date.year.toInt.toNat date.month.val.toNat date.day.val.toNat

theorem isDateText_iff_gregorian {cs : List Char} : isDateText cs = true ↔
    ∃ date : PlainDate, (0 ≤ date.year.toInt ∧ date.year.toInt ≤ 9999) ∧ cs = gregorianText date := by
  rw [isDateText_iff]
  constructor
  · rintro ⟨year, month, day, valid, rfl⟩
    obtain ⟨year_le, date, same_year, same_month, same_day⟩ := isDay_iff.1 valid
    refine ⟨date, by omega, ?_⟩
    rw [gregorianText, same_year, same_month, same_day]
    rfl
  · rintro ⟨date, ⟨year_nonneg, year_le⟩, rfl⟩
    obtain ⟨month_pos, -⟩ := date.month.property
    obtain ⟨day_pos, -⟩ := date.day.property
    refine ⟨_, _, _, isDay_iff.2 ⟨?_, date, ?_, ?_, ?_⟩, rfl⟩
    all_goals omega

example : isDateText "2000-02-29".toList = true ∧ isDateText "1900-02-29".toList = false := by decide

/-! ### Digits of other scripts -/

/-- The groups of digits in a text of the shape `YYYY-MM-DD`, with decimal digits of any script. -/
def dateGroups? : List Char → Option (List Char × List Char × List Char)
  | [y₁, y₂, y₃, y₄, '-', m₁, m₂, '-', d₁, d₂] =>
    if [y₁, y₂, y₃, y₄, m₁, m₂, d₁, d₂].all Text.isDecimalDigit then
      some ([y₁, y₂, y₃, y₄], [m₁, m₂], [d₁, d₂])
    else none
  | _ => none

/-- Whether groups of digits denote a day. -/
def groupsDenoteDay : List Char × List Char × List Char → Bool
  | (year, month, day) =>
    match Text.decimal? year, Text.decimal? month, Text.decimal? day with
    | some year, some month, some day => isDate year month day
    | _, _, _ => false

theorem isDecimalDigit_of_decimal? {cs : List Char} {n : Nat} (read : Text.decimal? cs = some n) :
    ∀ c ∈ cs, Text.isDecimalDigit c = true := by
  obtain ⟨-, -, written⟩ := Text.decimal?_eq_some_iff.1 read
  intro c mem
  rw [written] at mem
  exact Text.isDecimalDigit_of_isDigit (Text.isDigit_of_mem_padded mem)

/-- It makes no difference to look for digits of any script first and to read the numbers then. -/
theorem isDateText_eq_any_dateGroups? (cs : List Char) :
    isDateText cs = (dateGroups? cs).any groupsDenoteDay := by
  unfold isDateText
  split
  · next y₁ y₂ y₃ y₄ m₁ m₂ d₁ d₂ =>
    rw [dateGroups?]
    by_cases digits : [y₁, y₂, y₃, y₄, m₁, m₂, d₁, d₂].all Text.isDecimalDigit = true
    · rw [if_pos digits]
      rfl
    · rw [if_neg digits, Option.any_none]
      split
      · next year month day readYear readMonth readDay =>
        refine absurd (List.all_eq_true.2 fun c mem => ?_) digits
        have grouped : c ∈ [y₁, y₂, y₃, y₄] ++ ([m₁, m₂] ++ [d₁, d₂]) := mem
        rw [List.mem_append, List.mem_append] at grouped
        rcases grouped with mem | mem | mem
        · exact isDecimalDigit_of_decimal? readYear c mem
        · exact isDecimalDigit_of_decimal? readMonth c mem
        · exact isDecimalDigit_of_decimal? readDay c mem
      · rfl
  · next other =>
    rw [dateGroups?, Option.any_none]
    exact other

end Calendar

/-- The text of a date in the years 0 to 9999. -/
def Json.IsDate (v : Json) : Prop :=
  ∃ date : Std.Time.PlainDate, (0 ≤ date.year.toInt ∧ date.year.toInt ≤ 9999) ∧
    v = .str (String.ofList (Calendar.gregorianText date))

theorem Json.isDate_str_iff {s : String} :
    (Json.str s).IsDate ↔ Calendar.isDateText s.toList = true := by
  rw [Calendar.isDateText_iff_gregorian, IsDate]
  simp only [Json.str.injEq, ← String.toList_inj, String.toList_ofList]

namespace Descriptor

theorem coerce_date_of_isDate (c : Catalog) {v : Json} (date : v.IsDate) :
    coerce c (.leaf .date) v = .ok v := by
  have read : Leaf.date.read v = .ok v := by
    cases v with
    | str s =>
        rw [Json.isDate_str_iff] at date
        exact if_pos date
    | _ =>
        obtain ⟨_, -, text⟩ := date
        cases text
  rw [coerce_leaf, read]
  rfl

theorem coerce_date_of_not_isDate (c : Catalog) {v : Json} (other : ¬v.IsDate) :
    coerce c (.leaf .date) v = .error [.whole "must be a date (YYYY-MM-DD)"] := by
  have refused : Leaf.date.read v = .error "must be a date (YYYY-MM-DD)" := by
    cases v with
    | str s =>
        rw [Json.isDate_str_iff] at other
        exact if_neg other
    | _ => rfl
  rw [coerce_leaf, refused]
  rfl

/-- A value is read at the type of dates if it is the text of a date in the years 0 to 9999, and then as it
is; every other value is refused. -/
theorem coerce_date_iff (c : Catalog) (v : Json) :
    (∀ w, coerce c (.leaf .date) v = .ok w ↔ w = v ∧ v.IsDate) ∧
    (∀ vs, coerce c (.leaf .date) v = .error vs ↔
      vs = [.whole "must be a date (YYYY-MM-DD)"] ∧ ¬v.IsDate) := by
  by_cases date : v.IsDate
  · rw [coerce_date_of_isDate c date]
    refine ⟨fun w => ?_, fun vs => ?_⟩
    · simp [date, eq_comm]
    · simp [date]
  · rw [coerce_date_of_not_isDate c date]
    refine ⟨fun w => ?_, fun vs => ?_⟩
    · simp [date]
    · simp [date, eq_comm]

end Descriptor
end ApiContract
