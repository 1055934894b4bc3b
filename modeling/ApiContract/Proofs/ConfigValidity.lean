import ApiContract.Config.File

/-! # Valid settings

Settings are valid if some pair of a query string is read and the version of the description format is not
empty.  Settings from a text or a file are checked (`Config.valid_of_ofYaml`, `Config.valid_of_ofFile`).
Settings from the environment are not, but their count is always positive: it is the number that the variable
denotes, in decimal or hexadecimal digits, or else the default (`Config.maxQueryParams_ofEnvironment_iff`).
The version is taken as it is, so the settings are valid unless it is set to nothing
(`Config.ofEnvironment_valid_iff`). -/

namespace ApiContract

namespace Text

theorem decimal?_eq_none {cs : List Char} {c : Char} (mem : c ∈ cs) (other : c.isDigit = false) :
    decimal? cs = none := by
  unfold decimal?
  rw [if_pos]
  simp only [Bool.or_eq_true, Bool.not_eq_true', List.all_eq_false]
  exact .inr ⟨c, mem, by simp [other]⟩

theorem hexNumber?_plus (cs : List Char) : hexNumber? ('+' :: cs) = none := by
  have stuck : ∀ cs : List Char, cs.foldl
      (fun n c => n.bind fun n => (hexValue? c).map (16 * n + ·)) (none : Option Nat) = none := by
    intro cs
    induction cs with
    | nil => rfl
    | cons c cs ih => exact ih
  exact stuck cs

end Text

namespace Config

/-- What is asked of settings. -/
structure Valid (c : Config) : Prop where
  maxQueryParams_pos : 0 < c.maxQueryParams
  openapiVersion_ne : c.openapiVersion ≠ ""

theorem check_eq (c : Config) : c.check =
    if c.maxQueryParams = 0 then .error .zeroQueryParams
    else if c.openapiVersion = "" then .error .emptyVersion
    else .ok () := by
  unfold check
  simp only [String.isEmpty_iff]

theorem check_eq_ok_iff {c : Config} : c.check = .ok () ↔ c.Valid := by
  rw [check_eq]
  constructor
  · intro passes
    split at passes
    · cases passes
    · next some_pair =>
      split at passes
      · cases passes
      · next named => exact ⟨Nat.pos_of_ne_zero some_pair, named⟩
  · intro valid
    rw [if_neg (Nat.ne_of_gt valid.maxQueryParams_pos), if_neg valid.openapiVersion_ne]

theorem valid_default : default.Valid := ⟨by decide, by decide⟩

/-! ### Settings from a text -/

theorem valid_of_ofYaml {text : String} {c : Config} (loaded : ofYaml text = .ok c) : c.Valid := by
  unfold ofYaml at loaded
  split at loaded
  · cases loaded
    exact valid_default
  · split at loaded
    · cases loaded
    · next given _ =>
      cases checked : given.check with
      | error cause =>
          rw [checked] at loaded
          cases loaded
      | ok =>
          rw [checked] at loaded
          cases loaded
          exact check_eq_ok_iff.1 checked

theorem valid_of_ofFile {path : String} {bytes : Option (List UInt8)} {c : Config}
    (loaded : ofFile path bytes = .ok c) : c.Valid := by
  unfold ofFile at loaded
  split at loaded
  · cases loaded
  · next cs _ =>
    cases read : ofYaml (String.ofList cs) with
    | error cause =>
        rw [read] at loaded
        cases loaded
    | ok given =>
        rw [read] at loaded
        cases loaded
        exact valid_of_ofYaml read

/-! ### Counts -/

/-- The texts of a count of at most 64 bits: decimal digits, or `0x` and hexadecimal ones, with an optional
plus sign before the digits. -/
inductive CountText (n : Nat) : List Char → Prop
  | decimal {sign digits : List Char} (known : sign ∈ [[], ['+']])
      (value : Text.decimal? digits = some n) (fits : n < 0x10000000000000000) : CountText n (sign ++ digits)
  | hexadecimal {sign digits : List Char} (known : sign ∈ [[], ['+']])
      (value : Text.hexNumber? digits = some n) (fits : n < 0x10000000000000000) :
      CountText n ('0' :: 'x' :: (sign ++ digits))

/-- Digits are read behind an optional plus sign, which no digits begin with. -/
theorem unsigned64?_eq_some_iff {read? : List Char → Option Nat}
    (unsigned : ∀ cs, read? ('+' :: cs) = none) {cs : List Char} {n : Nat} :
    unsigned64? read? cs = some n ↔
      ∃ sign digits, sign ∈ [[], ['+']] ∧ cs = sign ++ digits ∧ read? digits = some n ∧
        n < 0x10000000000000000 := by
  unfold unsigned64?
  simp only [Option.filter_eq_some_iff, decide_eq_true_eq, Nat.reduceShiftLeft]
  constructor
  · rintro ⟨value, fits⟩
    split at value
    · next rest => exact ⟨['+'], rest, by simp, rfl, value, fits⟩
    · exact ⟨[], cs, by simp, rfl, value, fits⟩
  · rintro ⟨sign, digits, known, rfl, value, fits⟩
    refine ⟨?_, fits⟩
    rcases List.mem_cons.1 known with rfl | plus
    · rw [List.nil_append]
      split
      · rw [unsigned] at value
        cases value
      · exact value
    · obtain rfl := List.mem_singleton.1 plus
      exact value

theorem readCount?_eq_some_iff {text : String} {n : Nat} :
    readCount? text = some n ↔ CountText n text.toList := by
  have plus (cs : List Char) : Text.decimal? ('+' :: cs) = none :=
    Text.decimal?_eq_none List.mem_cons_self rfl
  unfold readCount?
  constructor
  · intro read
    split at read
    · next rest spelled =>
      obtain ⟨sign, digits, known, rfl, value, fits⟩ := (unsigned64?_eq_some_iff Text.hexNumber?_plus).1 read
      rw [spelled]
      exact .hexadecimal known value fits
    · obtain ⟨sign, digits, known, same, value, fits⟩ := (unsigned64?_eq_some_iff plus).1 read
      rw [same]
      exact .decimal known value fits
  · intro count
    generalize text.toList = cs at count
    cases count with
    | hexadecimal known value fits =>
        exact (unsigned64?_eq_some_iff Text.hexNumber?_plus).2 ⟨_, _, known, rfl, value, fits⟩
    | @decimal sign digits known value fits =>
        split
        · next rest spelled =>
          have mem : 'x' ∈ sign ++ digits := by simp [spelled]
          rcases List.mem_append.1 mem with mem | mem
          · rcases List.mem_cons.1 known with rfl | plus
            · cases mem
            · rw [List.mem_singleton.1 plus] at mem
              exact absurd mem (by decide)
          · rw [Text.decimal?_eq_none mem rfl] at value
            cases value
        · exact (unsigned64?_eq_some_iff plus).2 ⟨_, _, known, rfl, value, fits⟩

/-! ### Settings from the environment -/

theorem maxQueryParams_ofEnvironment_iff {maxQueryParams openapiVersion : Option String} {n : Nat} :
    (ofEnvironment maxQueryParams openapiVersion).maxQueryParams = n ↔
      (0 < n ∧ ∃ text, maxQueryParams = some text ∧ CountText n text.toList) ∨
      (n = 10000 ∧ ¬∃ text k, maxQueryParams = some text ∧ 0 < k ∧ CountText k text.toList) := by
  have denotes (k : Nat) : (maxQueryParams.bind readCount?).filter (0 < ·) = some k ↔
      0 < k ∧ ∃ text, maxQueryParams = some text ∧ CountText k text.toList := by
    simp only [Option.filter_eq_some_iff, Option.bind_eq_some_iff, readCount?_eq_some_iff,
      decide_eq_true_eq, and_comm]
  show ((maxQueryParams.bind readCount?).filter (0 < ·)).getD 10000 = n ↔ _
  rw [← denotes]
  cases given : (maxQueryParams.bind readCount?).filter (0 < ·) with
  | some k =>
      have found := (denotes k).1 given
      simp only [Option.getD_some, Option.some.injEq]
      constructor
      · exact .inl
      · rintro (same | ⟨-, none⟩)
        · exact same
        · obtain ⟨positive, text, set, count⟩ := found
          exact absurd ⟨text, k, set, positive, count⟩ none
  | none =>
      have none : ¬∃ text k, maxQueryParams = some text ∧ 0 < k ∧ CountText k text.toList := by
        rintro ⟨text, k, set, positive, count⟩
        have found := (denotes k).2 ⟨positive, text, set, count⟩
        rw [given] at found
        cases found
      simp only [Option.getD_none, reduceCtorEq, false_or]
      constructor
      · intro usual
        exact ⟨usual.symm, none⟩
      · rintro ⟨rfl, -⟩
        rfl

theorem maxQueryParams_ofEnvironment_pos (maxQueryParams openapiVersion : Option String) :
    0 < (ofEnvironment maxQueryParams openapiVersion).maxQueryParams := by
  rcases maxQueryParams_ofEnvironment_iff.1 rfl with ⟨positive, -⟩ | ⟨usual, -⟩
  · exact positive
  · rw [usual]
    decide

theorem openapiVersion_ofEnvironment_eq_empty_iff (maxQueryParams openapiVersion : Option String) :
    (ofEnvironment maxQueryParams openapiVersion).openapiVersion = "" ↔ openapiVersion = some "" := by
  cases openapiVersion with
  | none => simp [ofEnvironment, default]
  | some version => simp [ofEnvironment]

/-- Settings from the environment always have some pair of a query string read.  They are valid unless the
version is set to nothing, which the check would refuse. -/
theorem ofEnvironment_valid_iff (maxQueryParams openapiVersion : Option String) :
    0 < (ofEnvironment maxQueryParams openapiVersion).maxQueryParams ∧
    ((ofEnvironment maxQueryParams openapiVersion).Valid ↔ openapiVersion ≠ some "") ∧
    (ofEnvironment maxQueryParams openapiVersion).check =
      if openapiVersion = some "" then .error .emptyVersion else .ok () := by
  have positive := maxQueryParams_ofEnvironment_pos maxQueryParams openapiVersion
  have empty := openapiVersion_ofEnvironment_eq_empty_iff maxQueryParams openapiVersion
  refine ⟨positive, ?_, ?_⟩
  · constructor
    · intro valid
      exact mt empty.2 valid.openapiVersion_ne
    · intro named
      exact ⟨positive, mt empty.1 named⟩
  · rw [check_eq, if_neg (Nat.ne_of_gt positive)]
    simp only [empty]

/-- A version that is set to nothing is taken as it is; no text is read as these settings. -/
theorem ofEnvironment_emptyVersion :
    (ofEnvironment none (some "")).openapiVersion = "" ∧
    ¬(ofEnvironment none (some "")).Valid ∧
    (ofEnvironment none (some "")).check = .error .emptyVersion ∧
    ¬∃ text, ofYaml text = .ok (ofEnvironment none (some "")) := by
  have invalid : ¬(ofEnvironment none (some "")).Valid := fun valid => valid.openapiVersion_ne rfl
  refine ⟨rfl, invalid, rfl, ?_⟩
  rintro ⟨text, loaded⟩
  exact invalid (valid_of_ofYaml loaded)

end Config
end ApiContract
