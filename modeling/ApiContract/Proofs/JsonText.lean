import ApiContract.Json.Printer
import ApiContract.Json.Reader
import Mathlib.Tactic.SplitIfs

/-! # Objects of texts, written and read back

An object whose values are texts is printed as JSON text and read from it unchanged
(`Json.parse?_compact_ofTexts`), whatever its keys and values are: the reader undoes the escape of each
character (`Json.readTextChar?_escape`), so no quote, brace or comma inside a text ends anything.

The loops of the reader count rounds.  Each lemma here names the rounds that it needs and leaves the rest
of the text as it is; that the length of the whole text gives enough of them is shown at the end. -/

namespace ApiContract.Json

/-! ### Characters and texts -/

theorem hexValue?_hexDigit : ∀ n < 16, Text.hexValue? (hexDigit n) = some n := by decide

theorem readUnit?_hexDigit {n : Nat} (small : n < 256) (rest : List Char) :
    readUnit? ('0' :: '0' :: hexDigit (n / 16) :: hexDigit n :: rest) = some (n, rest) := by
  have high := hexValue?_hexDigit (n / 16) (by omega)
  have low : Text.hexValue? (hexDigit n) = some (n % 16) := by
    rw [← hexValue?_hexDigit (n % 16) (by omega), hexDigit, hexDigit, Nat.mod_mod]
  have zero : Text.hexValue? '0' = some 0 := rfl
  have sum : 0 * 4096 + 0 * 256 + n / 16 * 16 + n % 16 = n := by omega
  simp only [readUnit?, high, low, zero, Option.bind_eq_bind, Option.bind_some, sum]
  rfl

theorem eq_ofNat_of_toNat {c : Char} {n : Nat} (code : c.toNat = n) : c = Char.ofNat n := by
  rw [← code, Char.ofNat_toNat]

theorem readTextChar?_escape (c : Char) (rest : List Char) :
    readTextChar? (escape c ++ rest) = some (c, rest) := by
  unfold escape
  split_ifs with quote backslash backspace tab newline feed return_ control
  · subst quote; rfl
  · subst backslash; rfl
  · rw [eq_ofNat_of_toNat backspace]; rfl
  · rw [eq_ofNat_of_toNat tab]; rfl
  · rw [eq_ofNat_of_toNat newline]; rfl
  · rw [eq_ofNat_of_toNat feed]; rfl
  · rw [eq_ofNat_of_toNat return_]; rfl
  · have unit := readUnit?_hexDigit (n := c.toNat) (by omega) rest
    simp only [List.cons_append, List.nil_append, readTextChar?, readEscape?, readEscapedUnits?, unit,
      Option.bind_eq_bind, Option.bind_some, Char.ofNat_toNat]
    rw [if_neg (by omega), if_neg (by omega)]
    rfl
  · rw [List.singleton_append, readTextChar?.eq_def]
    split
    · next same => exact absurd (List.cons.inj same).1 backslash
    · next same =>
      obtain ⟨rfl, rfl⟩ := List.cons.inj same
      rw [if_neg (by simp [quote, control])]
    · next same => cases same

theorem exists_escape_eq_cons (c : Char) : ∃ d ds, escape c = d :: ds ∧ d ≠ '"' := by
  unfold escape
  split_ifs with quote
  case pos => exact ⟨_, _, rfl, by decide⟩
  all_goals first
    | exact ⟨_, _, rfl, quote⟩
    | exact ⟨_, _, rfl, by decide⟩

/-- Written characters and a quote are read as the characters, in a round for each and for the quote. -/
theorem readText?_escape {rounds : Nat} {cs : List Char} (enough : cs.length < rounds)
    (rest : List Char) :
    readText? rounds (cs.flatMap escape ++ '"' :: rest) = some (cs, rest) := by
  induction cs generalizing rounds with
  | nil =>
      obtain ⟨rounds, rfl⟩ := Nat.exists_eq_add_of_lt enough
      rfl
  | cons c cs ih =>
      obtain ⟨rounds, rfl⟩ := Nat.exists_eq_add_one.2 (Nat.zero_lt_of_lt enough)
      have read := readTextChar?_escape c (cs.flatMap escape ++ '"' :: rest)
      have later := ih (Nat.lt_of_succ_lt_succ enough)
      rw [List.flatMap_cons, List.append_assoc, readText?]
      · rw [read]
        simp only [Option.bind_eq_bind, Option.bind_some, later]
        rfl
      · intro after same
        obtain ⟨d, ds, written, other⟩ := exists_escape_eq_cons c
        rw [written] at same
        exact other (List.cons.inj same).1

theorem quote_append (s : String) (rest : List Char) :
    quote s ++ rest = '"' :: (s.toList.flatMap escape ++ '"' :: rest) := by
  rw [quote, List.cons_append, List.cons_append, List.append_assoc]
  rfl

theorem skipGap_cons {c : Char} (solid : isGap c = false) (cs : List Char) :
    skipGap (c :: cs) = c :: cs := by
  rw [skipGap, List.dropWhile_cons, solid]
  rfl

theorem readValue?_quote {limit depth : Nat} {s : String} (enough : s.length < limit)
    (rest : List Char) : readValue? limit depth (quote s ++ rest) = some (.str s, rest) := by
  have read := readText?_escape (String.length_toList ▸ enough) rest
  rw [quote_append, readValue?.eq_def]
  simp [skipGap, isGap, read]

/-! ### Members -/

/-- The members of an object whose values are texts. -/
def textMembers (texts : List (String × String)) : List (String × Json) :=
  texts.map fun (key, s) => (key, .str s)

section members
variable {limit depth rounds : Nat} {key s : String}

/-- A written member is read, and what follows it decides whether there are more. -/
theorem readMembers?_quote (keyFits : key.length < limit) (valueFits : s.length < limit)
    (tail : List Char) :
    readMembers? (readValue? limit depth) limit (rounds + 1) (quote key ++ ':' :: (quote s ++ tail)) =
      match skipGap tail with
      | '}' :: cs => some ([(key, .str s)], cs)
      | ',' :: cs => do
        let (members, cs) ← readMembers? (readValue? limit depth) limit rounds cs
        return ((key, .str s) :: members, cs)
      | _ => none := by
  have readKey := readText?_escape (String.length_toList ▸ keyFits) (':' :: (quote s ++ tail))
  have readValue : readValue? limit depth (quote s ++ tail) = some (.str s, tail) :=
    readValue?_quote valueFits tail
  rw [quote_append key, readMembers?, skipGap_cons rfl]
  simp only [readKey, Option.bind_eq_bind, Option.bind_some, skipGap_cons (c := ':') rfl, readValue,
    String.ofList_toList]
  rfl

theorem readMembers?_memberChars {texts : List (String × String)} (enough : texts.length < rounds)
    (fits : ∀ m ∈ (key, s) :: texts, m.1.length < limit ∧ m.2.length < limit) (rest : List Char) :
    readMembers? (readValue? limit depth) limit rounds
      (quote key ++ ':' :: (quote s ++ (memberChars (textMembers texts) ++ rest))) =
      some (textMembers ((key, s) :: texts), rest) := by
  obtain ⟨keyFits, valueFits⟩ := fits _ List.mem_cons_self
  induction texts generalizing key s rounds with
  | nil =>
      obtain ⟨rounds, rfl⟩ := Nat.exists_eq_add_one.2 enough
      rw [readMembers?_quote keyFits valueFits]
      rfl
  | cons next texts ih =>
      obtain ⟨nextKey, t⟩ := next
      obtain ⟨rounds, rfl⟩ := Nat.exists_eq_add_one.2 (Nat.zero_lt_of_lt enough)
      obtain ⟨nextFits, tFits⟩ := fits _ (List.mem_cons_of_mem _ List.mem_cons_self)
      have later := ih (Nat.lt_of_succ_lt_succ enough)
        (fun m mem => fits m (List.mem_cons_of_mem _ mem)) nextFits tFits
      have written : memberChars (textMembers ((nextKey, t) :: texts)) ++ rest =
          ',' :: (quote nextKey ++ ':' :: (quote t ++ (memberChars (textMembers texts) ++ rest))) := by
        simp [textMembers, memberChars, chars]
      rw [written, readMembers?_quote keyFits valueFits, skipGap_cons rfl]
      simp only [later]
      rfl

end members

/-! ### Room for everything that is written -/

theorem length_le_length_escape (cs : List Char) : cs.length ≤ (cs.flatMap escape).length := by
  induction cs with
  | nil => exact Nat.le_refl _
  | cons c cs ih =>
      obtain ⟨d, ds, written, -⟩ := exists_escape_eq_cons c
      rw [List.flatMap_cons, written, List.length_append, List.length_cons, List.length_cons]
      omega

theorem length_lt_length_quote (s : String) : s.length < (quote s).length := by
  have escaped := length_le_length_escape s.toList
  rw [String.length_toList] at escaped
  simp only [quote, List.cons_append, List.length_cons, List.length_append, List.length_nil]
  omega

/-- Written members take more room than there are members, and than each key and value. -/
theorem lt_length_memberChars (texts : List (String × String)) :
    texts.length < (memberChars (textMembers texts)).length ∧
    ∀ m ∈ texts, m.1.length < (memberChars (textMembers texts)).length ∧
      m.2.length < (memberChars (textMembers texts)).length := by
  induction texts with
  | nil => exact ⟨Nat.zero_lt_one, fun _ mem => nomatch mem⟩
  | cons first texts ih =>
      obtain ⟨key, s⟩ := first
      obtain ⟨count, each⟩ := ih
      have keyRoom := length_lt_length_quote key
      have valueRoom := length_lt_length_quote s
      have written : (memberChars (textMembers ((key, s) :: texts))).length =
          (quote key).length + (quote s).length + (memberChars (textMembers texts)).length + 2 := by
        simp [textMembers, memberChars, chars]
        omega
      rw [written, List.length_cons]
      refine ⟨by omega, fun m mem => ?_⟩
      rcases List.mem_cons.1 mem with rfl | later
      · exact ⟨by dsimp only; omega, by dsimp only; omega⟩
      · obtain ⟨keyFits, valueFits⟩ := each m later
        omega

/-! ### Objects -/

/-- The object of a dictionary of texts. -/
def ofTexts (d : Dict String) : Json := .obj (textMembers d.entries)

theorem sorted_textMembers {texts : List (String × String)} (sorted : Entries.Sorted texts) :
    Entries.Sorted (textMembers texts) := List.pairwise_map.2 sorted

theorem object_textMembers (texts : List (String × String)) :
    object (textMembers texts) = ofTexts (Dict.ofList texts) := by
  refine congrArg Json.obj (Entries.eq_of_lookup_eq (Entries.sorted_ofList _)
    (sorted_textMembers (Entries.sorted_ofList texts)) fun k => ?_)
  calc (Entries.ofList (textMembers texts)).lookup k
    _ = (texts.map fun e => (e.1, Json.str e.2)).reverse.lookup k := Entries.lookup_ofList k _
    _ = (texts.reverse.map fun e => (e.1, Json.str e.2)).lookup k := by rw [List.map_reverse]
    _ = (texts.reverse.lookup k).map .str := Entries.lookup_map _ k _
    _ = ((Entries.ofList texts).lookup k).map .str := by rw [Entries.lookup_ofList]
    _ = (textMembers (Entries.ofList texts)).lookup k := (Entries.lookup_map _ k _).symm

theorem readValue?_ofTexts {limit depth : Nat} {d : Dict String} (enough : d.entries.length ≤ limit)
    (fits : ∀ m ∈ d.entries, m.1.length < limit ∧ m.2.length < limit) (rest : List Char) :
    readValue? limit (depth + 1) (chars (ofTexts d) ++ rest) = some (ofTexts d, rest) := by
  obtain ⟨texts, sorted⟩ := d
  cases texts with
  | nil => rfl
  | cons first texts =>
      obtain ⟨key, s⟩ := first
      have written : chars (.obj (textMembers ((key, s) :: texts))) ++ rest =
          '{' :: '"' :: (key.toList.flatMap escape ++ '"' :: ':' ::
            (quote s ++ (memberChars (textMembers texts) ++ rest))) := by
        simp [textMembers, chars, quote]
      have read : readMembers? (readValue? limit depth) limit limit _ = _ :=
        readMembers?_memberChars (Nat.lt_of_succ_le enough) fits rest
      rw [quote_append] at read
      rw [ofTexts, written, readValue?.eq_def, skipGap_cons rfl]
      show Option.map _ (readMembers? _ _ _ (skipGap ('"' :: _))) = _
      rw [skipGap_cons rfl, read, Option.map_some]
      exact congrArg (fun members => some (Json.obj members, rest))
        (Entries.ofList_of_sorted (sorted_textMembers sorted))

theorem parse?_compact_ofTexts (d : Dict String) : parse? (ofTexts d).compact = some (ofTexts d) := by
  obtain ⟨count, each⟩ := lt_length_memberChars d.entries
  have room : (memberChars (textMembers d.entries)).length ≤ (chars (ofTexts d)).length := by
    unfold ofTexts
    cases d.entries <;> simp [textMembers, chars, memberChars]
  have read : readValue? ((chars (ofTexts d)).length + 1) 127 (chars (ofTexts d) ++ []) =
      some (ofTexts d, []) :=
    readValue?_ofTexts (by omega) (fun m mem => by have := each m mem; omega) []
  rw [List.append_nil] at read
  rw [parse?, compact, String.toList_ofList]
  simp only [read, Option.bind_eq_bind, Option.bind_some]
  rfl

end ApiContract.Json
