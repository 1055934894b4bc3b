import ApiContract.Text.Blank
import Mathlib.Data.List.DropRight

/-! # Trimming a text, and cutting it once

`Text.trimBy` drops the characters of one kind at both ends of a text and nothing else: what it leaves has
none at an end (`solidEnds_trimBy`), and is the text with some of them put around it
(`exists_eq_append_trimBy`).  What such characters are put around does not matter (`trimBy_append`), so a
text has one part that it can be trimmed to.

`Text.cutAt?` cuts at the first separator (`cutAt?_eq_some_iff`). -/

namespace ApiContract.Text

variable {p : Char → Bool} {cs front back : List Char}

theorem toList_ne_nil {s : String} (some_char : s ≠ "") : s.toList ≠ [] :=
  mt String.toList_eq_nil_iff.1 some_char

/-- A text that neither begins nor ends with a character that satisfies `p`. -/
structure SolidEnds (p : Char → Bool) (cs : List Char) : Prop where
  first : cs.head?.any p = false
  last : cs.getLast?.any p = false

instance (p : Char → Bool) (cs : List Char) : Decidable (SolidEnds p cs) :=
  decidable_of_iff (cs.head?.any p = false ∧ cs.getLast?.any p = false)
    ⟨fun h => ⟨h.1, h.2⟩, fun h => ⟨h.first, h.last⟩⟩

theorem any_head?_eq_false (none : ∀ c ∈ cs, p c = false) : cs.head?.any p = false := by
  cases cs with
  | nil => rfl
  | cons c cs => exact none c List.mem_cons_self

theorem SolidEnds.of_forall (none : ∀ c ∈ cs, p c = false) : SolidEnds p cs := by
  refine ⟨any_head?_eq_false none, ?_⟩
  rw [← List.head?_reverse]
  exact any_head?_eq_false fun c mem => none c (List.mem_reverse.1 mem)

theorem dropWhile_eq_self_of_head? (first : cs.head?.any p = false) : cs.dropWhile p = cs := by
  cases cs with
  | nil => rfl
  | cons c cs =>
      have solid : p c = false := first
      rw [List.dropWhile_cons, solid]
      rfl

theorem SolidEnds.trimBy_eq (solid : SolidEnds p cs) : trimBy p cs = cs := by
  have reversed : cs.reverse.head?.any p = false := by
    rw [List.head?_reverse]
    exact solid.last
  rw [trimBy, dropEnd, dropWhile_eq_self_of_head? solid.first, dropWhile_eq_self_of_head? reversed,
    List.reverse_reverse]

theorem trim_eq_self (none : ∀ c ∈ cs, isBlank c = false) : trim cs = cs :=
  (SolidEnds.of_forall none).trimBy_eq

theorem solidEnds_trimBy (p : Char → Bool) (cs : List Char) : SolidEnds p (trimBy p cs) := by
  have start : trimBy p cs <+: cs.dropWhile p := List.rdropWhile_prefix p _
  constructor
  · cases left : trimBy p cs with
    | nil => rfl
    | cons c kept =>
        rw [left] at start
        obtain ⟨rest, whole⟩ := start
        have solid := List.head?_dropWhile_not p cs
        rw [← whole] at solid
        exact solid
  · by_cases none : trimBy p cs = []
    · rw [none]
      rfl
    · rw [List.getLast?_eq_some_getLast none]
      exact eq_false_of_ne_true (List.rdropWhile_last_not p (cs.dropWhile p) none)

/-- What has been dropped stood around what is left. -/
theorem exists_eq_append_trimBy (p : Char → Bool) (cs : List Char) : ∃ front back,
    (∀ c ∈ front, p c = true) ∧ (∀ c ∈ back, p c = true) ∧ cs = front ++ trimBy p cs ++ back := by
  refine ⟨cs.takeWhile p, (cs.dropWhile p).rtakeWhile p, fun c => List.mem_takeWhile_imp,
    fun c => List.mem_rtakeWhile_imp, ?_⟩
  have ended : trimBy p cs ++ (cs.dropWhile p).rtakeWhile p = cs.dropWhile p :=
    List.rdropWhile_append_rtakeWhile
  rw [List.append_assoc, ended, List.takeWhile_append_dropWhile]

/-- What is dropped anyway may stand around a text. -/
theorem trimBy_append (before : ∀ c ∈ front, p c = true) (after : ∀ c ∈ back, p c = true) :
    trimBy p (front ++ cs ++ back) = trimBy p cs := by
  have around : dropEnd p (cs.dropWhile p ++ back) = dropEnd p (cs.dropWhile p) := by
    rw [dropEnd, List.reverse_append,
      List.dropWhile_append_of_pos fun c mem => after c (List.mem_reverse.1 mem), ← dropEnd]
  rw [trimBy, List.append_assoc, List.dropWhile_append_of_pos before, List.dropWhile_append]
  split
  · next none =>
    rw [trimBy, List.isEmpty_iff.1 none, List.dropWhile_eq_nil_iff.2 after]
  · exact around

/-- A text with solid ends is what is left of it with other characters around it. -/
theorem SolidEnds.trimBy_append (solid : SolidEnds p cs) (before : ∀ c ∈ front, p c = true)
    (after : ∀ c ∈ back, p c = true) : trimBy p (front ++ cs ++ back) = cs := by
  rw [Text.trimBy_append before after, solid.trimBy_eq]

theorem trim_cons {c : Char} (blank : isBlank c = true) (cs : List Char) :
    trim (c :: cs) = trim cs := by
  have moved : trim ([c] ++ cs ++ []) = trim cs :=
    trimBy_append (fun d mem => List.mem_singleton.1 mem ▸ blank) (by simp)
  rwa [List.append_nil] at moved

/-! ### Cutting once -/

theorem cutAt?_append_cons {piece : List Char} (whole : ∀ c ∈ piece, p c = false)
    {c : Char} (cut : p c = true) (cs : List Char) :
    cutAt? p (piece ++ c :: cs) = some (piece, cs) := by
  induction piece with
  | nil => rw [List.nil_append, cutAt?, if_pos cut]
  | cons d piece ih =>
      rw [List.cons_append, cutAt?, whole d List.mem_cons_self,
        ih fun e mem => whole e (List.mem_cons_of_mem _ mem)]
      rfl

theorem cutAt?_eq_some_iff {before after : List Char} : cutAt? p cs = some (before, after) ↔
    (∀ c ∈ before, p c = false) ∧ ∃ c, p c = true ∧ cs = before ++ c :: after := by
  refine ⟨fun found => ?_, ?_⟩
  · induction cs generalizing before with
    | nil => cases found
    | cons d cs ih =>
        rw [cutAt?] at found
        split at found
        · next cut =>
          cases found
          exact ⟨by simp, d, cut, rfl⟩
        · next whole =>
          obtain ⟨⟨piece, rest⟩, later, same⟩ := Option.map_eq_some_iff.1 found
          cases same
          obtain ⟨clear, c, cut, rfl⟩ := ih later
          refine ⟨?_, c, cut, rfl⟩
          intro e mem
          rcases List.mem_cons.1 mem with rfl | mem
          · exact eq_false_of_ne_true whole
          · exact clear e mem
  · rintro ⟨whole, c, cut, rfl⟩
    exact cutAt?_append_cons whole cut after

theorem takeWhile_append_eq_nil (some_char : cs ≠ []) (first : cs.head?.any p = false)
    (more : List Char) : (cs ++ more).takeWhile p = [] := by
  cases cs with
  | nil => exact absurd rfl some_char
  | cons c cs =>
      have solid : p c = false := first
      rw [List.cons_append, List.takeWhile_cons, solid]
      rfl

/-- Two texts agree in what comes before the first stop and in what is left. -/
theorem append_inj_of_stop {p : Char → Bool} {xs ys as bs : List Char} (hx : ∀ c ∈ xs, p c = true)
    (hy : ∀ c ∈ ys, p c = true) (stopA : as.takeWhile p = []) (stopB : bs.takeWhile p = [])
    (h : xs ++ as = ys ++ bs) : xs = ys ∧ as = bs := by
  have front := congrArg (List.takeWhile p) h
  rw [List.takeWhile_append_of_pos hx, List.takeWhile_append_of_pos hy, stopA, stopB,
    List.append_nil, List.append_nil] at front
  subst front
  exact ⟨rfl, List.append_cancel_left h⟩

end ApiContract.Text
