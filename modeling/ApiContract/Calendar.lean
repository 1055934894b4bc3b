import ApiContract.Text.Blank
import ApiContract.Text.Digit

/-! # Dates and times of day

Dates are those of the Gregorian calendar, also before its introduction, in the years 0 to 9999.
`isDateText` and `isDateTimeText` recognise their texts. -/

namespace ApiContract.Calendar

/-- Every fourth year, save full centuries, which are so every fourth time. -/
def isLeapYear (year : Nat) : Bool := (year % 4 == 0 && year % 100 != 0) || year % 400 == 0

/-- The number of days of a month; none if there is no such month. -/
def daysInMonth (year month : Nat) : Nat :=
  if month = 2 then if isLeapYear year then 29 else 28
  else if month = 4 ∨ month = 6 ∨ month = 9 ∨ month = 11 then 30
  else if 1 ≤ month ∧ month ≤ 12 then 31
  else 0

/-- Whether the calendar has this day. -/
def isDate (year month day : Nat) : Bool := 1 ≤ day && day ≤ daysInMonth year month

/-- `YYYY-MM-DD`, a day of the calendar. -/
def isDateText : List Char → Bool
  | [y1, y2, y3, y4, '-', m1, m2, '-', d1, d2] =>
    match Text.decimal? [y1, y2, y3, y4], Text.decimal? [m1, m2], Text.decimal? [d1, d2] with
    | some year, some month, some day => isDate year month day
    | _, _, _ => false
  | _ => false

/-- Decimal digits for a number below `bound`. -/
def isBelow (bound : Nat) (digits : List Char) : Bool := (Text.decimal? digits).any (· < bound)

/-- Drops a point and the digits after it, if there is a point; the digits may be of any script. -/
def dropFraction? : List Char → Option (List Char)
  | '.' :: d :: rest =>
    if Text.isDecimalDigit d then some (rest.dropWhile Text.isDecimalDigit) else none
  | rest => some rest

/-- `Z`, or a sign with two digits for hours and two for minutes, which may be of any script. -/
def isZone : List Char → Bool
  | [z] => z = 'Z' || z = 'z'
  | [sign, h1, h2, ':', m1, m2] =>
    (sign = '+' || sign = '-') && [h1, h2, m1, m2].all Text.isDecimalDigit
  | _ => false

/-- `hh:mm:ss`, a fraction of a second if there is a point, and a zone.  A minute may have a leap
second. -/
def isTimeText : List Char → Bool
  | h1 :: h2 :: ':' :: m1 :: m2 :: ':' :: s1 :: s2 :: rest =>
    isBelow 24 [h1, h2] && isBelow 60 [m1, m2] && isBelow 61 [s1, s2] &&
      (dropFraction? rest).any isZone
  | _ => false

/-- A date, a `T` or a space, and a time of day. -/
def isDateTimeText (cs : List Char) : Bool :=
  isDateText (cs.take 10) &&
    match cs.drop 10 with
    | sep :: time => (sep = 'T' || sep = 't' || sep = ' ') && isTimeText time
    | [] => false

end ApiContract.Calendar
