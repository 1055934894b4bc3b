import ApiContract.Proofs.Coercion
import ApiContract.Proofs.LeafValues
import ApiContract.Proofs.Trimming

/-! # Values of leaves are read as themselves

A built-in leaf reads each of its values as this value (`Leaf.read_of_value`), so what it has read once
it reads again unchanged.

The keys of a map are texts: a key is read at its type and written again.  `Leaf.keyLeaves` are the
leaves for which the written key means what the key before meant (`Leaf.read_keyText`). -/

namespace ApiContract

namespace Text

/-! ### Integers as texts -/

theorem not_isBlank_of_isDigit {c : Char} (digit : c.isDigit = true) : isBlank c = false := by
  obtain ⟨low, high⟩ := Char.isDigit_iff_toNat.1 digit
  have zero : '0'.toNat = 48 := rfl
  have nine : '9'.toNat = 57 := rfl
  simp only [isBlank, Bool.or_eq_false_iff, Bool.and_eq_false_iff, decide_eq_false_iff_not,
    beq_eq_false_iff_ne]
  omega

theorem isDigit_of_mem_toDigits {n : Nat} {c : Char} (h : c ∈ Nat.toDigits 10 n) :
    c.isDigit = true :=
  Nat.isDigit_of_mem_toDigits (by omega) (by omega) h

theorem decimal?_toDigits (n : Nat) : decimal? (Nat.toDigits 10 n) = some n := by
  have digit : 0 < (Nat.toDigits 10 n).length := List.length_pos_iff.2 Nat.toDigits_ne_nil
  refine decimal?_eq_some_iff.2 ⟨Nat.toDigits_ne_nil, ?_, ?_⟩
  · exact (Nat.length_toDigits_le_iff (by omega) digit).1 (Nat.le_refl _)
  · rw [padded, List.leftpad, Nat.sub_self]
    rfl

theorem integer?_toDigits (n : Nat) : integer? (Nat.toDigits 10 n) = some (n : Int) := by
  have unsigned : cutSign (Nat.toDigits 10 n) = (false, Nat.toDigits 10 n) := by
    unfold cutSign
    split
    · next h => exact absurd (isDigit_of_mem_toDigits (h ▸ List.mem_cons_self)) (by decide)
    · next h => exact absurd (isDigit_of_mem_toDigits (h ▸ List.mem_cons_self)) (by decide)
    · rfl
  simp [integer?, unsigned, decimal?_toDigits]

theorem integer?_toString (n : Int) : integer? (trim (toString n).toList) = some n := by
  have solid (m : Nat) : ∀ c ∈ Nat.toDigits 10 m, isBlank c = false :=
    fun c hc => not_isBlank_of_isDigit (isDigit_of_mem_toDigits hc)
  cases n with
  | ofNat m =>
      have text : (toString (Int.ofNat m)).toList = Nat.toDigits 10 m := String.toList_ofList
      rw [text, trim_eq_self (solid m), integer?_toDigits]
      rfl
  | negSucc m =>
      have text : (toString (Int.negSucc m)).toList = '-' :: Nat.toDigits 10 (m + 1) := by
        show ("-" ++ String.ofList (Nat.toDigits 10 (m + 1))).toList = _
        simp
      have none : ∀ c ∈ '-' :: Nat.toDigits 10 (m + 1), isBlank c = false := by
        intro c hc
        rcases List.mem_cons.1 hc with rfl | hc
        · rfl
        · exact solid _ c hc
      rw [text, trim_eq_self none]
      simp [integer?, cutSign, decimal?_toDigits, Int.negSucc_eq]

end Text

namespace Leaf

/-! ### Reading a value -/

theorem hexValue?_isSome {c : Char} (digit : c ∈ Text.lowerHexDigits) :
    (Text.hexValue? c).isSome = true := by
  have table : (Text.lowerHexDigits.all fun d => (Text.hexValue? d).isSome) = true := by decide
  exact List.all_eq_true.1 table c digit

/-- An identifier of lower-case digits is recognised, and lower case leaves it as it is. -/
theorem read_uuid_of_groups {groups : List (List Char)}
    (sizes : groups.map List.length = [8, 4, 4, 4, 12])
    (digits : ∀ g ∈ groups, ∀ c ∈ g, c ∈ Text.lowerHexDigits) :
    readUuid (.str (String.ofList (['-'].intercalate groups))) =
      .ok (.str (String.ofList (['-'].intercalate groups))) := by
  have some_group : groups ≠ [] := by
    rintro rfl
    cases sizes
  have free : ∀ g ∈ groups, '-' ∉ g := fun g hg hyphen => by
    have digit := digits g hg _ hyphen
    revert digit
    decide
  have recognised : isUuidText (['-'].intercalate groups) = true := by
    rw [isUuidText, isHexGroups, Text.splitBy_intercalate some_group free]
    simp only [sizes, beq_self_eq_true, Bool.true_and, List.all_eq_true]
    exact fun g hg c hc => hexValue?_isSome (digits g hg c hc)
  have lower : groups.map (List.map Char.toLower) = groups := by
    have same : (Text.lowerHexDigits.all fun d => d.toLower = d) = true := by decide
    have lowered : ∀ g ∈ groups, g.map Char.toLower = g := fun g hg =>
      (List.map_congr_left fun c hc => of_decide_eq_true
        (List.all_eq_true.1 same c (digits g hg c hc))).trans (List.map_id g)
    exact (List.map_congr_left lowered).trans (List.map_id groups)
  rw [readUuid, String.toList_ofList, if_pos recognised, Text.lowerAscii, String.toList_ofList,
    Text.map_intercalate, lower]
  rfl

theorem read_of_value {l : Leaf} {w : Json} (value : l.Value w) : l.read w = .ok w := by
  cases value with
  | string | integer | number | boolean | any | null => rfl
  | date valid =>
      have recognised := Calendar.isDateText_iff.2 ⟨_, _, _, valid, rfl⟩
      simp only [date, readTextWhere, String.toList_ofList, recognised, if_true]
  | dateTime accepted => simp only [dateTime, readTextWhere, accepted, if_true]
  | uuid sizes digits => exact read_uuid_of_groups sizes digits

theorem read_of_read {l : Leaf} (known : l ∈ builtin) {v w : Json} (h : l.read v = .ok w) :
    l.read w = .ok w :=
  read_of_value (value_of_read known h)

theorem isTextual_of_value {l : Leaf} (value : l.Value (.str "")) : l.isTextual = true := by
  generalize text : Json.str "" = w at value
  cases value with
  | string | any => rfl
  | integer | number | boolean | null => cases text
  | date valid =>
      have empty := congrArg String.toList (Json.str.inj text)
      rw [String.toList_ofList, Calendar.dateText] at empty
      simp at empty
  | dateTime accepted =>
      obtain rfl := Json.str.inj text
      cases accepted
  | @uuid groups sizes digits =>
      have empty := congrArg String.toList (Json.str.inj text)
      rw [String.toList_ofList] at empty
      rcases groups with _ | ⟨first, _ | ⟨second, rest⟩⟩
      · cases sizes
      · simp at sizes
      · simp at empty

/-- Null is read only where it is given, or as the absence of a value. -/
theorem ne_null_of_read {l : Leaf} (known : l ∈ builtin) (present : l.isAbsence = false)
    {v w : Json} (given : v ≠ .null) (h : l.read v = .ok w) : w ≠ .null := by
  have value := value_of_read known h
  rintro rfl
  cases value with
  | any => exact given (Except.ok.inj h)
  | null => cases present

/-! ### Keys -/

/-- The leaves whose values, written as keys, are read as these values. -/
def keyLeaves : List Leaf := [string, integer, boolean, date, dateTime, uuid, any]

theorem keyText_int (n : Int) (range : -0x8000000000000000 ≤ n ∧ n < 0x10000000000000000) :
    Descriptor.keyText (.num (.int n range)) = toString n :=
  String.ofList_toList

theorem readInteger_toString {n : Int} {w : Json} (fits : signed64? n = some w) :
    readInteger (.str (toString n)) = .ok w := by
  simp only [readInteger, Text.integer?_toString, Option.bind_some, fits, orError]

theorem read_keyText {l : Leaf} (key : l ∈ keyLeaves) {text : String} {k : Json}
    (h : l.read (.str text) = .ok k) : l.read (.str (Descriptor.keyText k)) = .ok k := by
  have named := List.mem_map_of_mem (f := name) key
  have known : l ∈ builtin := by
    simp only [keyLeaves, builtin, List.mem_cons, List.not_mem_nil, or_false] at key ⊢
    tauto
  have textual {s : String} (text : k = .str s) : l.read (.str (Descriptor.keyText k)) = .ok k := by
    subst text
    exact read_of_read known h
  have value := value_of_read known h
  cases value with
  | string s | date | dateTime | uuid => exact textual rfl
  | any => exact textual (Except.ok.inj h).symm
  | boolean b => cases b <;> rfl
  | integer n range =>
      obtain ⟨m, -, fits⟩ := Option.bind_eq_some_iff.1 (orError_eq_ok_iff.1 h)
      obtain ⟨range', same⟩ := signed64?_eq_some fits
      cases same
      rw [keyText_int]
      exact readInteger_toString fits
  | number n => exact absurd named (by decide)
  | null => exact absurd named (by decide)

end Leaf
end ApiContract
