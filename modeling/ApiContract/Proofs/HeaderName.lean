import ApiContract.Proofs.Ascii
import ApiContract.Proofs.Trimming
import ApiContract.Request.Header
import Mathlib.Data.List.Basic

/-! # Names of headers

Headers are stored by transport key, so names with one key are one header.  `Header.capitals` is what the
key keeps of a name: upper case, and underscores for hyphens.  Blanks around the name do not count
(`Header.transportKey_eq_iff`), and the prefix of the key confuses no header with the two that have
none.  A name that may be sent has no blanks around it (`Header.isBare_lowerAscii`). -/

namespace ApiContract

namespace Header

/-- A name in capitals, with underscores for hyphens. -/
def capitals (name : String) : String :=
  String.ofList (name.toList.map fun c => if c = '-' then '_' else c.toUpper)

theorem normalized_eq (name : String) : normalized name = capitals (Text.trimmed name) := by
  simp [normalized, capitals, Text.trimmed]

/-- A name without blanks around it. -/
def IsBare (name : String) : Prop := Text.trimmed name = name

instance (name : String) : Decidable (IsBare name) := inferInstanceAs (Decidable (_ = _))

theorem transportKey_eq_iff {m n : String} : transportKey m = transportKey n ↔
    capitals (Text.trimmed m) = capitals (Text.trimmed n) := by
  rw [← normalized_eq, ← normalized_eq]
  refine ⟨fun same => ?_, fun same => by rw [transportKey, transportKey, same]⟩
  have marked (s : String) : "HTTP_" ++ s ≠ "CONTENT_TYPE" ∧ "HTTP_" ++ s ≠ "CONTENT_LENGTH" := by
    constructor <;> intro clash <;> simp [← String.toList_inj] at clash
  unfold transportKey at same
  grind [String.append_right_inj]

theorem IsBare.transportKey_eq_iff {m n : String} (hm : IsBare m) (hn : IsBare n) :
    transportKey m = transportKey n ↔ capitals m = capitals n := by
  rw [Header.transportKey_eq_iff, hm, hn]

/-! ### The cookie header -/

theorem capitals_lowerAscii (name : String) : capitals (Text.lowerAscii name) = capitals name := by
  have same (c : Char) : (if c.toLower = '-' then '_' else c.toLower.toUpper) =
      if c = '-' then '_' else c.toUpper := by
    simp only [Text.toLower_eq_hyphen_iff, Text.toUpper_toLower]
  rw [capitals, Text.lowerAscii, String.toList_ofList, List.map_map]
  exact congrArg String.ofList (List.map_congr_left fun c _ => same c)

/-- Without underscores the capitals of a name tell it up to case. -/
theorem lowerAscii_capitals {name : String} (plain : '_' ∉ (capitals name).toList) :
    Text.lowerAscii (capitals name) = Text.lowerAscii name := by
  have lowered : ∀ c ∈ name.toList,
      (if c = '-' then '_' else c.toUpper).toLower = c.toLower := by
    intro c mem
    split
    · next hyphen =>
      refine absurd ?_ plain
      rw [capitals, String.toList_ofList]
      exact List.mem_map.2 ⟨c, mem, if_pos hyphen⟩
    · exact Text.toLower_toUpper c
  rw [Text.lowerAscii, capitals, String.toList_ofList, List.map_map]
  exact congrArg String.ofList (List.map_congr_left lowered)

theorem isCookie_iff {name : String} : isCookie name = true ↔ capitals name = capitals "cookie" := by
  rw [isCookie, Text.sameAscii, beq_iff_eq]
  constructor
  · intro same
    rw [← capitals_lowerAscii, same, capitals_lowerAscii]
  · intro same
    have plain : '_' ∉ (capitals "cookie").toList := by decide
    rw [← lowerAscii_capitals (same ▸ plain), same, lowerAscii_capitals plain]

/-! ### Names as they are sent -/

theorem toNat_lt_of_isAlphanum {c : Char} (letter : c.isAlphanum = true) : c.toNat < 128 := by
  have bounded {d : Char} (upTo : c.val ≤ d.val) (low : d.toNat < 128) : c.toNat < 128 :=
    Nat.lt_of_le_of_lt (UInt32.le_iff_toNat_le.1 upTo) low
  rcases Bool.or_eq_true_iff.1 (show (c.isAlpha || c.isDigit) = true from letter) with alpha | digit
  · rcases Bool.or_eq_true_iff.1 (show (c.isUpper || c.isLower) = true from alpha) with upper | lower
    · exact bounded (d := 'Z') (of_decide_eq_true upper).2 (by decide)
    · exact bounded (d := 'z') (of_decide_eq_true (Bool.and_eq_true_iff.1 lower).2) (by decide)
  · exact bounded (d := '9') (of_decide_eq_true (Bool.and_eq_true_iff.1 digit).2) (by decide)

theorem toNat_lt_of_isNameChar {c : Char} (valid : isNameChar c = true) : c.toNat < 128 := by
  rw [isNameChar, Bool.or_eq_true, Bool.or_eq_true] at valid
  rcases valid with (letter | mark) | accent
  · exact toNat_lt_of_isAlphanum letter
  · have table : "!#$%&'*+-.^_|~".toList.all (fun c => decide (c.toNat < 128)) = true := by decide
    exact of_decide_eq_true (List.all_eq_true.1 table c (of_decide_eq_true mark))
  · rw [beq_iff_eq.1 accent]
    decide

theorem isBare_lowerAscii {name : String} (valid : isName name = true) :
    IsBare (Text.lowerAscii name) := by
  have chars : ∀ c ∈ name.toList, isNameChar c = true := by
    rw [isName, Bool.and_eq_true] at valid
    exact List.all_eq_true.1 valid.2
  have solid : ∀ c ∈ name.toList.map Char.toLower, Text.isBlank c = false := by
    intro lower mem
    obtain ⟨c, present, rfl⟩ := List.mem_map.1 mem
    exact Text.forall_ascii (P := fun c => isNameChar c = true → Text.isBlank c.toLower = false)
      (by decide +kernel) c (toNat_lt_of_isNameChar (chars c present)) (chars c present)
  rw [IsBare, Text.trimmed, Text.lowerAscii, String.toList_ofList, Text.trim_eq_self solid]

end Header
end ApiContract
