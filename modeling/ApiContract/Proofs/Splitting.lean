import ApiContract.Text.Blank
import Mathlib.Data.List.Basic

/-! # Cutting a text at a separator

`Text.splitBy` cuts at every occurrence of a separator, and joining the pieces with the separator
gives the text back (`intercalate_splitBy`).  Conversely, pieces without the separator are what their
joined text is cut into (`splitBy_intercalate`). -/

namespace ApiContract.Text

theorem splitBy_ne_nil (p : Char → Bool) (cs : List Char) : splitBy p cs ≠ [] := by
  cases cs with
  | nil => simp [splitBy]
  | cons c cs =>
      unfold splitBy
      split
      · simp
      · split <;> simp

theorem intercalate_splitBy (separator : Char) (cs : List Char) :
    [separator].intercalate (splitBy (· = separator) cs) = cs := by
  induction cs with
  | nil => rfl
  | cons c cs ih =>
      obtain ⟨piece, pieces, rest⟩ :=
        List.exists_cons_of_ne_nil (splitBy_ne_nil (· = separator) cs)
      rw [rest] at ih
      unfold splitBy
      rw [rest]
      split
      · next cut =>
        rw [List.intercalate_cons_cons, ih, of_decide_eq_true cut]
        rfl
      · simp only
        rw [List.intercalate_cons_cons_left, ih]

section pieces
variable {p : Char → Bool} {piece : List Char}

theorem splitBy_eq_singleton (whole : ∀ c ∈ piece, p c = false) : splitBy p piece = [piece] := by
  induction piece with
  | nil => rfl
  | cons c piece ih =>
      rw [splitBy, whole c List.mem_cons_self, ih fun d hd => whole d (List.mem_cons_of_mem _ hd)]
      rfl

/-- What stands before a separator and what stands behind it are cut on their own. -/
theorem splitBy_append_cut {c : Char} (cut : p c = true) (before after : List Char) :
    splitBy p (before ++ c :: after) = splitBy p before ++ splitBy p after := by
  induction before with
  | nil =>
      show splitBy p (c :: after) = [] :: splitBy p after
      rw [splitBy, if_pos cut]
  | cons d before ih =>
      rw [List.cons_append, splitBy, splitBy, ih]
      obtain ⟨piece, pieces, whole⟩ := List.exists_cons_of_ne_nil (splitBy_ne_nil p before)
      rw [whole]
      split <;> rfl

theorem splitBy_append_cons (whole : ∀ c ∈ piece, p c = false) {c : Char} (cut : p c = true)
    (cs : List Char) : splitBy p (piece ++ c :: cs) = piece :: splitBy p cs := by
  rw [splitBy_append_cut cut, splitBy_eq_singleton whole]
  rfl

end pieces

section separator
variable {separator : Char} {piece cs : List Char}

theorem whole_of_not_mem (free : separator ∉ piece) :
    ∀ c ∈ piece, decide (c = separator) = false := by
  intro c hc
  refine decide_eq_false fun same => free ?_
  rw [← same]
  exact hc

theorem splitBy_eq_singleton_iff :
    splitBy (· = separator) cs = [piece] ↔ separator ∉ cs ∧ piece = cs := by
  constructor
  · intro single
    have joined := intercalate_splitBy separator cs
    rw [single, List.intercalate_singleton] at joined
    refine ⟨fun mem => ?_, joined⟩
    obtain ⟨before, after, rfl, free⟩ := List.eq_append_cons_of_mem mem
    rw [splitBy_append_cons (whole_of_not_mem free) (decide_eq_true rfl)] at single
    exact splitBy_ne_nil _ _ (List.cons.inj single).2
  · rintro ⟨free, rfl⟩
    exact splitBy_eq_singleton (whole_of_not_mem free)

end separator

theorem splitBy_intercalate {separator : Char} {pieces : List (List Char)} (some_piece : pieces ≠ [])
    (free : ∀ piece ∈ pieces, separator ∉ piece) :
    splitBy (· = separator) ([separator].intercalate pieces) = pieces := by
  have whole {piece : List Char} (mem : piece ∈ pieces) :
      ∀ c ∈ piece, decide (c = separator) = false := whole_of_not_mem (free piece mem)
  induction pieces with
  | nil => exact absurd rfl some_piece
  | cons piece pieces ih =>
      cases pieces with
      | nil =>
          rw [List.intercalate_singleton]
          exact splitBy_eq_singleton (whole List.mem_cons_self)
      | cons next pieces =>
          rw [List.intercalate_cons_cons, List.append_assoc, List.singleton_append,
            splitBy_append_cons (whole List.mem_cons_self) (decide_eq_true rfl)]
          refine congrArg (piece :: ·) (ih (by simp) ?_ ?_)
          · exact fun other mem => free other (List.mem_cons_of_mem _ mem)
          · exact fun mem => whole (List.mem_cons_of_mem _ mem)

end ApiContract.Text
