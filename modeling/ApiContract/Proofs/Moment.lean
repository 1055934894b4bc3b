import ApiContract.Coerce
import ApiContract.Proofs.Calendar
import ApiContract.Proofs.Trimming

/-! # The texts of moments

A moment is a day of the calendar and a time of day.  Its text, `Calendar.Moment.text`, has a fixed number of
digits up to the seconds, and then perhaps a fraction, and a zone.  RFC 3339 asks for ASCII digits there and for
an offset of hours and minutes below 24 and 60 (`Moment.Standard`).  What is recognised is more: the digits may
be those of any script, and an offset may have any (`Moment.Lenient`, `isDateTimeText_iff`).

A text is that of one lenient moment at most (`Moment.text_injective`), so it can be told which of the texts
that are read are moments by the standard (`Descriptor.coerce_dateTime_iff`). -/

namespace ApiContract

namespace Text

theorem exists_padded_two {n : Nat} (lt : n < 100) : ∃ a b, padded 2 n = [a, b] :=
  List.length_eq_two.1 (length_padded (by decide) lt)

theorem isDecimalDigit_of_isDigit {c : Char} (digit : c.isDigit = true) : isDecimalDigit c = true := by
  obtain ⟨-, high⟩ := Char.isDigit_iff_toNat.1 digit
  have nine : '9'.toNat = 57 := rfl
  unfold isDecimalDigit
  rw [if_pos (by omega), digit]

end Text

namespace Calendar

/-- Hours, minutes and seconds. -/
def clockText (hour minute second : Nat) : List Char :=
  Text.padded 2 hour ++ ':' :: (Text.padded 2 minute ++ ':' :: Text.padded 2 second)

/-- A point and digits, or nothing if there are no digits. -/
def fractionText : List Char → List Char
  | [] => []
  | digits => '.' :: digits

/-- The zones of RFC 3339: a letter for universal time, or an offset from it of less than a day. -/
inductive Zone : List Char → Prop
  | universal {letter : Char} (known : letter ∈ ['Z', 'z']) : Zone [letter]
  | offset {sign : Char} {hours minutes : Nat} (known : sign ∈ ['+', '-']) (hours_le : hours ≤ 23)
    (minutes_le : minutes ≤ 59) : Zone (sign :: (Text.padded 2 hours ++ ':' :: Text.padded 2 minutes))

/-- What has the shape of a zone, with any digits of any script in an offset. -/
inductive ZoneLike : List Char → Prop
  | universal {letter : Char} (known : letter ∈ ['Z', 'z']) : ZoneLike [letter]
  | offset {sign h₁ h₂ m₁ m₂ : Char} (known : sign ∈ ['+', '-'])
    (digits : ∀ c ∈ [h₁, h₂, m₁, m₂], Text.isDecimalDigit c = true) :
    ZoneLike [sign, h₁, h₂, ':', m₁, m₂]

/-- A day of the calendar and a time of day, with what its text has behind the seconds. -/
structure Moment where
  year : Nat
  month : Nat
  day : Nat
  isDay : IsDay year month day
  separator : Char
  separator_mem : separator ∈ ['T', 't', ' ']
  hour : Nat
  minute : Nat
  second : Nat
  hour_le : hour ≤ 23
  minute_le : minute ≤ 59
  /-- A minute may have a leap second. -/
  second_le : second ≤ 60
  /-- The digits behind the point; without any there is no point. -/
  fraction : List Char
  zone : List Char

namespace Moment

/-- The text of a moment. -/
def text (m : Moment) : List Char :=
  dateText m.year m.month m.day ++ m.separator ::
    (clockText m.hour m.minute m.second ++ (fractionText m.fraction ++ m.zone))

/-- What RFC 3339 asks of fraction and zone. -/
structure Standard (m : Moment) : Prop where
  fraction : ∀ c ∈ m.fraction, c.isDigit = true
  zone : Zone m.zone

/-- Digits of any script in fraction and zone. -/
structure Lenient (m : Moment) : Prop where
  fraction : ∀ c ∈ m.fraction, Text.isDecimalDigit c = true
  zone : ZoneLike m.zone

end Moment

/-- The texts of RFC 3339. -/
def IsStandardText (cs : List Char) : Prop := ∃ m : Moment, m.Standard ∧ cs = m.text

/-! ### Times of day -/

theorem exists_of_isBelow {bound : Nat} {a b : Char} (below : isBelow bound [a, b] = true) :
    ∃ n < bound, [a, b] = Text.padded 2 n := by
  unfold isBelow at below
  obtain ⟨n, read, lt⟩ := (Option.any_eq_true _ _).1 below
  obtain ⟨-, -, written⟩ := Text.decimal?_eq_some_iff.1 read
  exact ⟨n, of_decide_eq_true lt, written⟩

theorem isBelow_padded {bound n : Nat} (le : bound ≤ 100) (lt : n < bound) :
    isBelow bound (Text.padded 2 n) = true := by
  unfold isBelow
  rw [Text.decimal?_padded (by decide) (by omega), Option.any_some]
  exact decide_eq_true lt

theorem isTimeText_groups {hs ms ss : List Char} (two : hs.length = 2) (two' : ms.length = 2)
    (two'' : ss.length = 2) (rest : List Char) :
    isTimeText (hs ++ ':' :: (ms ++ ':' :: ss) ++ rest) =
      (isBelow 24 hs && isBelow 60 ms && isBelow 61 ss && (dropFraction? rest).any isZone) := by
  match hs, ms, ss, two, two', two'' with
  | [_, _], [_, _], [_, _], _, _, _ => rfl

/-- A time of day has its six digits first, and then what ends the text. -/
theorem isTimeText_iff {cs : List Char} : isTimeText cs = true ↔ ∃ hour minute second rest,
    hour ≤ 23 ∧ minute ≤ 59 ∧ second ≤ 60 ∧ cs = clockText hour minute second ++ rest ∧
      (dropFraction? rest).any isZone = true := by
  constructor
  · intro h
    unfold isTimeText at h
    split at h
    · next h₁ h₂ m₁ m₂ s₁ s₂ rest =>
      simp only [Bool.and_eq_true] at h
      obtain ⟨⟨⟨hours, minutes⟩, seconds⟩, ending⟩ := h
      obtain ⟨hour, hour_lt, hour_text⟩ := exists_of_isBelow hours
      obtain ⟨minute, minute_lt, minute_text⟩ := exists_of_isBelow minutes
      obtain ⟨second, second_lt, second_text⟩ := exists_of_isBelow seconds
      refine ⟨hour, minute, second, rest, by omega, by omega, by omega, ?_, ending⟩
      rw [clockText, ← hour_text, ← minute_text, ← second_text]
      rfl
    · cases h
  · rintro ⟨hour, minute, second, rest, hour_le, minute_le, second_le, rfl, ending⟩
    have two {n : Nat} (lt : n < 10 ^ 2) : (Text.padded 2 n).length = 2 :=
      Text.length_padded (by decide) lt
    unfold clockText
    rw [isTimeText_groups (two (by omega)) (two (by omega)) (two (by omega)), ending,
      isBelow_padded (by decide) (by omega), isBelow_padded (by decide) (by omega),
      isBelow_padded (by decide) (by omega)]
    rfl

/-! ### Fractions and zones -/

theorem isZone_iff {cs : List Char} : isZone cs = true ↔ ZoneLike cs := by
  constructor
  · intro h
    unfold isZone at h
    split at h
    · next letter => exact .universal (by simpa using h)
    · next sign h₁ h₂ m₁ m₂ =>
      simp only [Bool.and_eq_true, List.all_eq_true] at h
      exact .offset (by simpa using h.1) h.2
    · cases h
  · intro zone
    cases zone with
    | universal known => simpa [isZone] using known
    | offset known digits =>
        simp only [isZone, Bool.and_eq_true, List.all_eq_true]
        exact ⟨by simpa using known, digits⟩

/-- No zone begins with a point or with a digit, so the fraction before it has its end. -/
theorem ZoneLike.exists_cons {zone : List Char} (like : ZoneLike zone) :
    ∃ c rest, zone = c :: rest ∧ c ≠ '.' ∧ Text.isDecimalDigit c = false := by
  have first {c : Char} (mem : c ∈ ['Z', 'z'] ++ ['+', '-']) :
      c ≠ '.' ∧ Text.isDecimalDigit c = false := by
    simp only [List.cons_append, List.nil_append, List.mem_cons, List.not_mem_nil, or_false] at mem
    rcases mem with rfl | rfl | rfl | rfl <;> decide
  cases like with
  | universal known => exact ⟨_, _, rfl, first (List.mem_append_left _ known)⟩
  | offset known digits => exact ⟨_, _, rfl, first (List.mem_append_right _ known)⟩

theorem ZoneLike.takeWhile_eq_nil {zone : List Char} (like : ZoneLike zone) :
    zone.takeWhile Text.isDecimalDigit = [] := by
  obtain ⟨c, rest, rfl, -, solid⟩ := like.exists_cons
  rw [List.takeWhile_cons, solid]
  rfl

theorem ZoneLike.dropWhile_eq {zone : List Char} (like : ZoneLike zone) :
    zone.dropWhile Text.isDecimalDigit = zone := by
  obtain ⟨c, rest, rfl, -, solid⟩ := like.exists_cons
  rw [List.dropWhile_cons, solid]
  rfl

theorem any_isZone_dropFraction?_iff {cs : List Char} : (dropFraction? cs).any isZone = true ↔
    ∃ fraction zone, (∀ c ∈ fraction, Text.isDecimalDigit c = true) ∧ ZoneLike zone ∧
      cs = fractionText fraction ++ zone := by
  constructor
  · intro h
    unfold dropFraction? at h
    split at h
    · next d rest =>
      split at h
      · next digit =>
        refine ⟨d :: rest.takeWhile Text.isDecimalDigit, rest.dropWhile Text.isDecimalDigit, ?_,
          isZone_iff.1 h, ?_⟩
        · intro c mem
          rcases List.mem_cons.1 mem with rfl | mem
          · exact digit
          · exact List.mem_takeWhile_imp mem
        · rw [fractionText, List.cons_append, List.cons_append, List.takeWhile_append_dropWhile]
          simp
      · cases h
    · exact ⟨[], cs, by simp, isZone_iff.1 h, rfl⟩
  · rintro ⟨fraction, zone, digits, like, rfl⟩
    cases fraction with
    | nil =>
        obtain ⟨c, rest, rfl, point, -⟩ := like.exists_cons
        have none : dropFraction? (c :: rest) = some (c :: rest) := by
          unfold dropFraction?
          split
          · next same => exact absurd (List.cons.inj same).1 point
          · rfl
        rw [fractionText, List.nil_append, none, Option.any_some, isZone_iff]
        exact like
    | cons d ds =>
        have first : Text.isDecimalDigit d = true := digits d List.mem_cons_self
        have later : ∀ c ∈ ds, Text.isDecimalDigit c = true :=
          fun c mem => digits c (List.mem_cons_of_mem _ mem)
        have dropped : dropFraction? ('.' :: d :: (ds ++ zone)) = some zone := by
          rw [dropFraction?, if_pos first, List.dropWhile_append_of_pos later, like.dropWhile_eq]
        show (dropFraction? ('.' :: d :: (ds ++ zone))).any isZone = true
        rw [dropped, Option.any_some, isZone_iff]
        exact like

theorem Zone.like {zone : List Char} (standard : Zone zone) : ZoneLike zone := by
  cases standard with
  | universal known => exact .universal known
  | @offset sign hours minutes known hours_le minutes_le =>
      obtain ⟨h₁, h₂, hours_text⟩ := Text.exists_padded_two (n := hours) (by omega)
      obtain ⟨m₁, m₂, minutes_text⟩ := Text.exists_padded_two (n := minutes) (by omega)
      have digits : ∀ c ∈ Text.padded 2 hours ++ Text.padded 2 minutes,
          Text.isDecimalDigit c = true := by
        intro c mem
        apply Text.isDecimalDigit_of_isDigit
        rcases List.mem_append.1 mem with mem | mem
        · exact Text.isDigit_of_mem_padded mem
        · exact Text.isDigit_of_mem_padded mem
      rw [hours_text, minutes_text] at digits ⊢
      exact .offset known digits

/-- A fraction ends where its zone begins. -/
theorem fractionText_append_inj {ds ds' zone zone' : List Char}
    (digits : ∀ c ∈ ds, Text.isDecimalDigit c = true)
    (digits' : ∀ c ∈ ds', Text.isDecimalDigit c = true) (like : ZoneLike zone) (like' : ZoneLike zone')
    (same : fractionText ds ++ zone = fractionText ds' ++ zone') : ds = ds' ∧ zone = zone' := by
  have bare {ds zone zone' : List Char} (like : ZoneLike zone)
      (same : zone = '.' :: ds ++ zone') : False := by
    obtain ⟨c, rest, rfl, point, -⟩ := like.exists_cons
    exact point (List.cons.inj same).1
  cases ds with
  | nil =>
      cases ds' with
      | nil => exact ⟨rfl, same⟩
      | cons d' ds' => exact (bare like same).elim
  | cons d ds =>
      cases ds' with
      | nil => exact (bare like' same.symm).elim
      | cons d' ds' =>
          obtain ⟨-, same⟩ := List.cons.inj same
          exact Text.append_inj_of_stop digits digits' like.takeWhile_eq_nil like'.takeWhile_eq_nil same

theorem clockText_append_inj {h m s h' m' s' : Nat} (hh : h < 100) (hm : m < 100) (hs : s < 100)
    (hh' : h' < 100) (hm' : m' < 100) (hs' : s' < 100) {as bs : List Char}
    (same : clockText h m s ++ as = clockText h' m' s' ++ bs) :
    h = h' ∧ m = m' ∧ s = s' ∧ as = bs := by
  unfold clockText at same
  simp only [List.append_assoc, List.cons_append] at same
  obtain ⟨hour, same⟩ := Text.padded_append_inj (by decide) hh hh' same
  obtain ⟨-, same⟩ := List.cons.inj same
  obtain ⟨minute, same⟩ := Text.padded_append_inj (by decide) hm hm' same
  obtain ⟨-, same⟩ := List.cons.inj same
  obtain ⟨second, same⟩ := Text.padded_append_inj (by decide) hs hs' same
  exact ⟨hour, minute, second, same⟩

/-! ### Whole texts -/

theorem isDateTimeText_iff {cs : List Char} :
    isDateTimeText cs = true ↔ ∃ m : Moment, m.Lenient ∧ cs = m.text := by
  unfold isDateTimeText
  constructor
  · intro h
    obtain ⟨date, h⟩ := Bool.and_eq_true_iff.1 h
    obtain ⟨year, month, day, isDay, date⟩ := isDateText_iff.1 date
    split at h
    · next separator time after =>
      obtain ⟨known, time_text⟩ := Bool.and_eq_true_iff.1 h
      obtain ⟨hour, minute, second, rest, hour_le, minute_le, second_le, rfl, ending⟩ :=
        isTimeText_iff.1 time_text
      obtain ⟨fraction, zone, digits, like, rfl⟩ := any_isZone_dropFraction?_iff.1 ending
      refine ⟨{ year, month, day, isDay, separator, hour, minute, second, hour_le, minute_le,
                second_le, fraction, zone, separator_mem := by simpa [or_assoc] using known },
        ⟨digits, like⟩, ?_⟩
      rw [Moment.text, ← date, ← after, List.take_append_drop]
    · cases h
  · rintro ⟨m, lenient, rfl⟩
    have date : isDateText (dateText m.year m.month m.day) = true :=
      isDateText_iff.2 ⟨_, _, _, m.isDay, rfl⟩
    have ending : (dropFraction? (fractionText m.fraction ++ m.zone)).any isZone = true :=
      any_isZone_dropFraction?_iff.2 ⟨_, _, lenient.fraction, lenient.zone, rfl⟩
    have time : isTimeText (clockText m.hour m.minute m.second ++
        (fractionText m.fraction ++ m.zone)) = true :=
      isTimeText_iff.2 ⟨_, _, _, _, m.hour_le, m.minute_le, m.second_le, rfl, ending⟩
    have known : (m.separator = 'T' || m.separator = 't' || m.separator = ' ') = true := by
      simpa [or_assoc] using m.separator_mem
    rw [Moment.text, List.take_left' m.isDay.length_dateText, List.drop_left' m.isDay.length_dateText]
    simp only [date, known, time, Bool.and_self]

namespace Moment

theorem Standard.lenient {m : Moment} (standard : m.Standard) : m.Lenient :=
  ⟨fun c mem => Text.isDecimalDigit_of_isDigit (standard.fraction c mem), standard.zone.like⟩

/-- A text is that of one lenient moment at most. -/
theorem text_injective {p q : Moment} (hp : p.Lenient) (hq : q.Lenient) (same : p.text = q.text) :
    p = q := by
  have hour := p.hour_le
  have minute := p.minute_le
  have second := p.second_le
  have hour' := q.hour_le
  have minute' := q.minute_le
  have second' := q.second_le
  unfold text at same
  obtain ⟨date, same⟩ :=
    List.append_inj same (by rw [p.isDay.length_dateText, q.isDay.length_dateText])
  obtain ⟨year_eq, month_eq, day_eq⟩ := p.isDay.dateText_inj q.isDay date
  obtain ⟨separator_eq, same⟩ := List.cons.inj same
  obtain ⟨hour_eq, minute_eq, second_eq, same⟩ := clockText_append_inj (by omega) (by omega) (by omega)
    (by omega) (by omega) (by omega) same
  obtain ⟨fraction_eq, zone_eq⟩ :=
    fractionText_append_inj hp.fraction hq.fraction hp.zone hq.zone same
  cases p
  cases q
  rw [Moment.mk.injEq]
  exact ⟨year_eq, month_eq, day_eq, separator_eq, hour_eq, minute_eq, second_eq, fraction_eq, zone_eq⟩

/-- Whether the text of a lenient moment is one of the standard is told by the moment. -/
theorem Lenient.isStandardText_iff {m : Moment} (lenient : m.Lenient) :
    IsStandardText m.text ↔ m.Standard := by
  constructor
  · rintro ⟨other, standard, same⟩
    rw [text_injective lenient standard.lenient same]
    exact standard
  · intro standard
    exact ⟨m, standard, rfl⟩

end Moment
end Calendar

namespace Descriptor
open Calendar

theorem coerce_dateTime_str (c : Catalog) (s : String) : coerce c (.leaf .dateTime) (.str s) =
    if isDateTimeText s.toList then .ok (.str s)
    else .error [.whole "must be an RFC 3339 date-time"] := by
  have read : Leaf.dateTime.read (.str s) =
      if isDateTimeText s.toList then .ok (.str s) else .error "must be an RFC 3339 date-time" := rfl
  rw [coerce_leaf, read]
  split <;> rfl

/-- A text is read at the type of moments if it is that of a lenient moment, and then as it is; all other
texts are refused.  So what is read are the texts of RFC 3339 save for those of the lenient moments that are not
standard: with digits of another script in the fraction or the offset, or with an offset that no clock
shows. -/
theorem coerce_dateTime_iff (c : Catalog) (s : String) :
    (∀ w, coerce c (.leaf .dateTime) (.str s) = .ok w ↔
      w = .str s ∧ ∃ m : Moment, m.Lenient ∧ s.toList = m.text) ∧
    (∀ vs, coerce c (.leaf .dateTime) (.str s) = .error vs ↔
      vs = [.whole "must be an RFC 3339 date-time"] ∧ ¬∃ m : Moment, m.Lenient ∧ s.toList = m.text) ∧
    ((coerce c (.leaf .dateTime) (.str s) = .ok (.str s) ↔ IsStandardText s.toList) ↔
      ∀ m : Moment, m.Lenient → s.toList = m.text → m.Standard) := by
  rw [coerce_dateTime_str]
  by_cases recognised : isDateTimeText s.toList = true
  · obtain ⟨m, lenient, written⟩ := isDateTimeText_iff.1 recognised
    have moment : ∃ m : Moment, m.Lenient ∧ s.toList = m.text := ⟨m, lenient, written⟩
    rw [if_pos recognised]
    refine ⟨fun w => by simp [moment, eq_comm], fun vs => by simp [moment], ?_⟩
    simp only [true_iff]
    constructor
    · intro standard other otherLenient otherWritten
      rw [otherWritten] at standard
      exact otherLenient.isStandardText_iff.1 standard
    · intro all
      exact ⟨m, all m lenient written, written⟩
  · have none : ¬∃ m : Moment, m.Lenient ∧ s.toList = m.text := mt isDateTimeText_iff.2 recognised
    rw [if_neg recognised]
    refine ⟨fun w => by simp [none], fun vs => by simp [none, eq_comm], ?_⟩
    have refused : ¬IsStandardText s.toList := by
      rintro ⟨m, standard, written⟩
      exact none ⟨m, standard.lenient, written⟩
    simp only [reduceCtorEq, refused, true_iff]
    intro m lenient written
    exact absurd ⟨m, lenient, written⟩ none

/-! ### An offset that no clock shows -/

/-- Half past twelve, four days and more ahead of universal time. -/
def farAhead : Moment where
  year := 2024
  month := 5
  day := 1
  isDay := ⟨by decide, by decide, by decide, by decide, by decide⟩
  separator := 'T'
  separator_mem := by decide
  hour := 12
  minute := 30
  second := 0
  hour_le := by decide
  minute_le := by decide
  second_le := by decide
  fraction := []
  zone := ['+', '9', '9', ':', '9', '9']

theorem farAhead_lenient : farAhead.Lenient where
  fraction := List.forall_mem_nil _
  zone := by
    apply ZoneLike.offset
    · decide
    · intro c mem
      obtain rfl : c = '9' := by simpa using mem
      decide

/-- The text is read although its offset has 99 hours and 99 minutes, which RFC 3339 does not allow. -/
theorem farAhead_read : coerce ⟨[]⟩ (.leaf .dateTime) (.str "2024-05-01T12:30:00+99:99") =
      .ok (.str "2024-05-01T12:30:00+99:99") ∧
    ¬IsStandardText "2024-05-01T12:30:00+99:99".toList := by
  have written : "2024-05-01T12:30:00+99:99".toList = farAhead.text := by decide
  constructor
  · rw [coerce_dateTime_str, if_pos (by decide)]
  · rw [written, farAhead_lenient.isStandardText_iff]
    intro standard
    have zone := standard.zone
    generalize spelled : farAhead.zone = z at zone
    cases zone with
    | universal known => cases spelled
    | offset known hours_le minutes_le =>
        have digits : Text.padded 2 99 ++ [':', '9', '9'] = _ := (List.cons.inj spelled).2
        obtain ⟨rfl, -⟩ := Text.padded_append_inj (by decide) (by decide) (by omega) digits
        omega

end Descriptor
end ApiContract
