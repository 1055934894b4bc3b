import ApiContract.Leaf
import ApiContract.Proofs.Calendar
import ApiContract.Proofs.Splitting
import Mathlib.Tactic.IntervalCases

/-! # The values of the built-in leaves

`Leaf.Value` lists the values of each built-in leaf without saying how they are read: texts, integers,
numbers and truth values are values as such, dates are the days of the calendar, and identifiers have
lower-case digits.  Whatever a leaf reads from an untyped value is one of its values
(`Leaf.value_of_read`). -/

namespace ApiContract

namespace Text

/-! ### Hexadecimal digits -/

theorem map_intercalate (f : Char → Char) (separator : List Char) (pieces : List (List Char)) :
    (separator.intercalate pieces).map f = (separator.map f).intercalate (pieces.map (List.map f)) := by
  induction pieces with
  | nil => rfl
  | cons piece pieces ih =>
      cases pieces with
      | nil => simp
      | cons next pieces =>
          rw [List.intercalate_cons_cons, List.map_append, List.map_append, ih]
          simp only [List.map_cons, List.intercalate_cons_cons]

/-- The digits of hexadecimal numbers, with lower-case letters. -/
def lowerHexDigits : List Char := "0123456789abcdef".toList

theorem mem_of_hexValue?_isSome {c : Char} (h : (hexValue? c).isSome = true) :
    c ∈ lowerHexDigits ++ "ABCDEF".toList := by
  have range : (48 ≤ c.toNat ∧ c.toNat ≤ 57) ∨ (97 ≤ c.toNat ∧ c.toNat ≤ 102) ∨
      (65 ≤ c.toNat ∧ c.toNat ≤ 70) := by
    unfold hexValue? at h
    split at h
    · next digit => exact .inl digit
    · split at h
      · next lower => exact .inr (.inl lower)
      · split at h
        · next upper => exact .inr (.inr upper)
        · cases h
  rw [← Char.ofNat_toNat c]
  generalize c.toNat = n at range
  rcases range with ⟨low, high⟩ | ⟨low, high⟩ | ⟨low, high⟩
  all_goals interval_cases n <;> decide

theorem toLower_mem_lowerHexDigits {c : Char} (h : (hexValue? c).isSome = true) :
    c.toLower ∈ lowerHexDigits := by
  have table : (lowerHexDigits ++ "ABCDEF".toList).map Char.toLower ⊆ lowerHexDigits := by decide
  exact table (List.mem_map_of_mem (mem_of_hexValue?_isSome h))

end Text

namespace Leaf

/-! ### Values -/

/-- The values of the built-in leaves. -/
inductive Value : Leaf → Json → Prop
  | string (s : String) : Value string (.str s)
  | integer (n : Int) (range : -0x8000000000000000 ≤ n ∧ n < 0x10000000000000000) :
    Value integer (.num (.int n range))
  | number (n : Number) : Value number (.num n)
  | boolean (b : Bool) : Value boolean (.bool b)
  | date {year month day : Nat} (valid : Calendar.IsDay year month day) :
    Value date (.str (String.ofList (Calendar.dateText year month day)))
  | dateTime {s : String} (accepted : Calendar.isDateTimeText s.toList = true) :
    Value dateTime (.str s)
  | uuid {groups : List (List Char)} (sizes : groups.map List.length = [8, 4, 4, 4, 12])
    (digits : ∀ g ∈ groups, ∀ c ∈ g, c ∈ Text.lowerHexDigits) :
    Value uuid (.str (String.ofList (['-'].intercalate groups)))
  | any (v : Json) : Value any v
  | null : Value null .null

theorem orError_eq_ok_iff {message : String} {result : Option Json} {w : Json} :
    orError message result = .ok w ↔ result = some w := by
  cases result <;> simp [orError]

theorem signed64?_eq_some {n : Int} {w : Json} (h : signed64? n = some w) :
    ∃ range, w = .num (.int n range) := by
  unfold signed64? at h
  split at h
  · exact ⟨_, (Option.some.inj h).symm⟩
  · cases h

theorem readTextWhere_eq_ok {p : List Char → Bool} {message : String} {v w : Json}
    (h : readTextWhere p message v = .ok w) : ∃ s : String, p s.toList = true ∧ w = .str s := by
  cases v with
  | str s =>
      rw [readTextWhere] at h
      split at h
      · next holds => exact ⟨s, holds, (Except.ok.inj h).symm⟩
      · cases h
  | _ => cases h

theorem value_of_readString {v w : Json} (h : readString v = .ok w) : Value string w := by
  cases v with
  | str | num | bool => cases h; exact .string _
  | _ => cases h

theorem value_of_readInteger {v w : Json} (h : readInteger v = .ok w) : Value integer w := by
  have read := orError_eq_ok_iff.1 h
  cases v with
  | num n =>
      cases n with
      | int n range => cases read; exact .integer n range
      | float x =>
          obtain ⟨n, -, fits⟩ := Option.bind_eq_some_iff.1 read
          obtain ⟨range, rfl⟩ := signed64?_eq_some fits
          exact .integer n range
  | str s =>
      obtain ⟨n, -, fits⟩ := Option.bind_eq_some_iff.1 read
      obtain ⟨range, rfl⟩ := signed64?_eq_some fits
      exact .integer n range
  | _ => cases read

theorem exists_int_of_readInteger {v w : Json} (h : readInteger v = .ok w) :
    ∃ n inRange, w = .num (.int n inRange) := by
  have value := value_of_readInteger h
  generalize known : integer = l at value
  have name := congrArg Leaf.name known
  cases value with
  | integer n inRange => exact ⟨n, inRange, rfl⟩
  | _ => exact absurd name (by decide)

theorem value_of_readNumber {v w : Json} (h : readNumber v = .ok w) : Value number w := by
  have read := orError_eq_ok_iff.1 h
  cases v with
  | num n => cases read; exact .number n
  | str s =>
      obtain ⟨x, -, rfl⟩ := Option.map_eq_some_iff.1 read
      exact .number _
  | _ => cases read

theorem value_of_readBoolean {v w : Json} (h : readBoolean v = .ok w) : Value boolean w := by
  have read := orError_eq_ok_iff.1 h
  cases v with
  | bool b => cases read; exact .boolean b
  | str s =>
      obtain ⟨b, -, rfl⟩ := Option.map_eq_some_iff.1 read
      exact .boolean b
  | _ => cases read

theorem value_of_readDate {v w : Json} (h : date.read v = .ok w) : Value date w := by
  obtain ⟨s, recognised, rfl⟩ := readTextWhere_eq_ok h
  obtain ⟨year, month, day, valid, text⟩ := Calendar.isDateText_iff.1 recognised
  rw [← String.ofList_toList (s := s), text]
  exact .date valid

/-- Putting an identifier into lower case keeps its groups. -/
theorem value_of_readUuid {v w : Json} (h : readUuid v = .ok w) : Value uuid w := by
  cases v with
  | str s =>
      rw [readUuid] at h
      split at h
      · next recognised =>
        simp only [isUuidText, isHexGroups, Bool.and_eq_true, beq_iff_eq, List.all_eq_true]
          at recognised
        obtain ⟨sizes, digits⟩ := recognised
        have text : s.toList.map Char.toLower =
            ['-'].intercalate ((Text.splitBy (· = '-') s.toList).map (List.map Char.toLower)) := by
          conv => lhs; rw [← Text.intercalate_splitBy '-' s.toList]
          exact Text.map_intercalate Char.toLower ['-'] _
        rw [← Except.ok.inj h, Text.lowerAscii, text]
        refine .uuid ?_ fun g hg c hc => ?_
        · rw [List.map_map, ← sizes]
          exact List.map_congr_left fun g _ => List.length_map _
        · obtain ⟨upper, mem, rfl⟩ := List.mem_map.1 hg
          obtain ⟨d, hd, rfl⟩ := List.mem_map.1 hc
          exact Text.toLower_mem_lowerHexDigits (digits upper mem d hd)
      · cases h
  | _ => cases h

theorem value_of_readNull {v w : Json} (h : readNull v = .ok w) : Value null w := by
  cases v with
  | null => cases h; exact .null
  | str s =>
      rw [readNull] at h
      split at h
      · cases h; exact .null
      · cases h
  | _ => cases h

theorem value_of_read {l : Leaf} (known : l ∈ builtin) {v w : Json} (h : l.read v = .ok w) :
    l.Value w := by
  simp only [builtin, List.mem_cons, List.not_mem_nil, or_false] at known
  rcases known with rfl | rfl | rfl | rfl | rfl | rfl | rfl | rfl | rfl
  · exact value_of_readString h
  · exact value_of_readInteger h
  · exact value_of_readNumber h
  · exact value_of_readBoolean h
  · exact value_of_readDate h
  · obtain ⟨s, accepted, rfl⟩ := readTextWhere_eq_ok h
    exact .dateTime accepted
  · exact value_of_readUuid h
  · exact .any w
  · exact value_of_readNull h

end Leaf
end ApiContract
