import ApiContract.Proofs.Percent
import ApiContract.Proofs.Splitting
import ApiContract.Proofs.Trimming
import ApiContract.Request.Basic

/-! # Query strings, written and read back

`Form.write` writes pairs in the form encoding: `name=value` pieces with `&` between them, where a space is
written as `+` and what is neither a letter, a digit nor one of `*-._` is escaped.  Neither `&` nor `=` is
among the characters of an encoded name or value, so the text is cut where it has been joined, and every
list of pairs is read as it was written (`Form.pairs_write`), with its repeats, its empty names and its
empty values.

A request takes the pairs up to a limit.  `queryPairs_write` says what becomes of any list that has been
written: all of it, or an error. -/

namespace ApiContract

namespace Form

/-- The characters that stand for themselves. -/
def isPlain (c : Char) : Bool := c.isAlphanum || c ∈ "*-._".toList

/-- A byte of a name or a value. -/
def writeByte (b : UInt8) : List Char := if b = 0x20 then ['+'] else Percent.writeByte isPlain b

/-- A name or a value. -/
def writeComponent (s : String) : List Char := (Utf8.encode s.toList).flatMap writeByte

/-- A name and a value. -/
def writePair (pair : String × String) : List Char :=
  writeComponent pair.1 ++ '=' :: writeComponent pair.2

/-- The text of a list of pairs. -/
def write (pairs : List (String × String)) : String :=
  String.ofList (['&'].intercalate (pairs.map writePair))

theorem plain_isPlain : Percent.Plain isPlain := by decide +kernel

/-! ### Names and values -/

theorem of_mem_writeByte {b : UInt8} {c : Char} (mem : c ∈ writeByte b) :
    isPlain c = true ∨ c = '%' ∨ c = '+' := by
  unfold writeByte at mem
  split at mem
  · exact .inr (.inr (List.mem_singleton.1 mem))
  · exact (plain_isPlain.of_mem_writeByte mem).imp And.right .inl

/-- Only characters that are written can be in a name or a value. -/
theorem not_mem_writeComponent {c : Char} (special : isPlain c = false) (percent : c ≠ '%')
    (plus : c ≠ '+') (s : String) : c ∉ writeComponent s := by
  intro mem
  obtain ⟨b, -, mem⟩ := List.mem_flatMap.1 mem
  rcases of_mem_writeByte mem with plain | same | same
  · rw [special] at plain
    cases plain
  · exact percent same
  · exact plus same

/-- Reading turns `+` into a space before it looks for escapes. -/
theorem readBack_spaced :
    Percent.ReadBack fun b => (writeByte b).map fun c => if c = '+' then ' ' else c := by
  intro b bytes
  by_cases space : b = 0x20
  · subst space
    exact Percent.decodeBytes_cons (by decide) bytes
  · have kept : (writeByte b).map (fun c => if c = '+' then ' ' else c) =
        Percent.writeByte isPlain b := by
      rw [writeByte, if_neg space]
      refine (List.map_congr_left fun c mem => if_neg ?_).trans (List.map_id _)
      rintro rfl
      rcases plain_isPlain.of_mem_writeByte mem with ⟨-, plain⟩ | same
      · exact absurd plain (by decide)
      · exact absurd same (by decide)
    simp only [kept]
    exact plain_isPlain.readBack b bytes

theorem decodeComponent_writeComponent (s : String) : decodeComponent (writeComponent s) = s := by
  unfold decodeComponent writeComponent
  simp only [List.map_flatMap]
  rw [readBack_spaced.decodeBytes_flatMap, Utf8.decodeLossy_encode, String.ofList_toList]

/-! ### Pairs -/

theorem readPair_writePair (pair : String × String) : readPair (writePair pair) = pair := by
  have whole : ∀ c ∈ writeComponent pair.1, decide (c = '=') = false :=
    Text.whole_of_not_mem (not_mem_writeComponent (by decide) (by decide) (by decide) pair.1)
  unfold readPair writePair
  rw [Text.cutAt?_append_cons whole (decide_eq_true rfl)]
  simp only [Option.getD_some, decodeComponent_writeComponent]

theorem ampersand_not_mem_writePair (pair : String × String) : '&' ∉ writePair pair := by
  have free (s : String) : '&' ∉ writeComponent s :=
    not_mem_writeComponent (by decide) (by decide) (by decide) s
  simp [writePair, free]

theorem pairs_write (ps : List (String × String)) : pairs (write ps) = ps := by
  unfold pairs write
  rw [String.toList_ofList]
  cases ps with
  | nil => rfl
  | cons first rest =>
      have free : ∀ piece ∈ (first :: rest).map writePair, '&' ∉ piece := by
        intro piece mem
        obtain ⟨pair, -, rfl⟩ := List.mem_map.1 mem
        exact ampersand_not_mem_writePair pair
      have present : ∀ piece ∈ (first :: rest).map writePair, (!piece.isEmpty) = true := by
        intro piece mem
        obtain ⟨pair, -, rfl⟩ := List.mem_map.1 mem
        simp [writePair]
      have same : readPair ∘ writePair = id := funext readPair_writePair
      rw [Text.splitBy_intercalate (by simp) free, List.filter_eq_self.2 present, List.map_map, same,
        List.map_id]

example : write [("q", "tom & joe"), ("", "é"), ("q", "")] = "q=tom+%26+joe&=%C3%A9&q=" := by
  decide +kernel

end Form

/-- A query string that has been written is read as its pairs, in order and with their repeats, if the
limit allows so many; with one pair more it is refused. -/
theorem queryPairs_write (limit : Nat) (pairs : List (String × String)) :
    queryPairs limit (Form.write pairs) =
      if pairs.length ≤ limit then .ok pairs else .error (.tooManyPairs limit) := by
  rw [queryPairs_eq, Form.pairs_write]
  by_cases fits : pairs.length ≤ limit
  · rw [if_pos fits, if_neg (Nat.not_lt.2 fits)]
  · rw [if_neg fits, if_pos (Nat.not_le.1 fits)]

end ApiContract
