import ApiContract.Proofs.LeafStability

/-! # Integers as numbers and as texts

Integer tokens reach from `-2 ^ 63` to `2 ^ 64 - 1`, and the integer leaf takes all of them.  A text is taken
for an integer of 64 bits with its sign only, that is below `2 ^ 63`; so an integer beyond is read from a
body and refused as a parameter (`Descriptor.coerce_integer_text_eq_iff`). -/

namespace ApiContract.Descriptor

theorem coerce_integer_text (c : Catalog) {n : Int}
    (range : -0x8000000000000000 ≤ n ∧ n < 0x10000000000000000) :
    coerce c (.leaf .integer) (.str (toString n)) =
      if n < 0x8000000000000000 then .ok (.num (.int n range))
      else .error [.whole "must be an integer"] := by
  have read : Leaf.integer.read (.str (toString n)) =
      Leaf.orError "must be an integer" (Leaf.signed64? n) := by
    show Leaf.readInteger (.str (toString n)) = _
    simp only [Leaf.readInteger, Text.integer?_toString, Option.bind_some]
  rw [coerce_leaf, read]
  unfold Leaf.signed64?
  by_cases signed : n < 0x8000000000000000
  · rw [dif_pos ⟨range.1, signed⟩, if_pos signed]
    rfl
  · rw [dif_neg fun both => signed both.2, if_neg signed]
    rfl

/-- The number and the text of an integer are read alike exactly below `2 ^ 63`, both as the integer; from
there on the number is still read, and the text is refused. -/
theorem coerce_integer_text_eq_iff (c : Catalog) {n : Int}
    (range : -0x8000000000000000 ≤ n ∧ n < 0x10000000000000000) :
    coerce c (.leaf .integer) (.num (.int n range)) = .ok (.num (.int n range)) ∧
    (n < 0x8000000000000000 →
      coerce c (.leaf .integer) (.str (toString n)) = .ok (.num (.int n range))) ∧
    (0x8000000000000000 ≤ n →
      coerce c (.leaf .integer) (.str (toString n)) = .error [.whole "must be an integer"]) ∧
    (coerce c (.leaf .integer) (.str (toString n)) = coerce c (.leaf .integer) (.num (.int n range)) ↔
      n < 0x8000000000000000) := by
  have number : coerce c (.leaf .integer) (.num (.int n range)) = .ok (.num (.int n range)) := by
    rw [coerce_leaf]
    rfl
  rw [number, coerce_integer_text c range]
  refine ⟨rfl, fun signed => if_pos signed, fun beyond => if_neg (Int.not_lt.2 beyond), ?_⟩
  by_cases signed : n < 0x8000000000000000
  · simp [signed]
  · simp [signed]

theorem coerce_lastSigned :
    (-0x8000000000000000 ≤ (0x7FFFFFFFFFFFFFFF : Int) ∧
      (0x7FFFFFFFFFFFFFFF : Int) < 0x10000000000000000) ∧
    coerce ⟨[]⟩ (.leaf .integer) (.str "9223372036854775807") =
      coerce ⟨[]⟩ (.leaf .integer) (.num (.int 0x7FFFFFFFFFFFFFFF (by decide))) :=
  ⟨by decide, (coerce_integer_text_eq_iff ⟨[]⟩ (n := 0x7FFFFFFFFFFFFFFF) (by decide)).2.2.2.2 (by decide)⟩

theorem coerce_firstUnsigned :
    coerce ⟨[]⟩ (.leaf .integer) (.num (.int 0x8000000000000000 (by decide))) =
      .ok (.num (.int 0x8000000000000000 (by decide))) ∧
    coerce ⟨[]⟩ (.leaf .integer) (.str "9223372036854775808") =
      .error [.whole "must be an integer"] := by
  constructor
  · rw [coerce_leaf]
    rfl
  · exact coerce_integer_text ⟨[]⟩ (n := 0x8000000000000000) (by decide)

end ApiContract.Descriptor
