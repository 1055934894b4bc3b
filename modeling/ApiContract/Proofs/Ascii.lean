import Mathlib.Data.List.Basic

/-! # Characters below 128

A statement about these characters is a table of 128 lines (`Text.forall_ascii`).  `Char.toUpper` and
`Char.toLower` change no other characters (`Text.toUpper_of_le`, `Text.toLower_of_le`). -/

namespace ApiContract.Text

/-- A property of the characters below 128 can be looked up in a table. -/
theorem forall_ascii {P : Char → Prop} (table : ∀ n < 128, P (Char.ofNat n)) :
    ∀ c : Char, c.toNat < 128 → P c := by
  intro c low
  rw [← Char.ofNat_toNat c]
  exact table c.toNat low

theorem toLower_of_le {c : Char} (high : 128 ≤ c.toNat) : c.toLower = c := by
  refine dif_neg fun letter => ?_
  have upper : c.toNat ≤ 90 := UInt32.le_iff_toNat_le.1 letter.2
  omega

theorem toUpper_of_le {c : Char} (high : 128 ≤ c.toNat) : c.toUpper = c := by
  refine dif_neg fun letter => ?_
  have lower : c.toNat ≤ 122 := UInt32.le_iff_toNat_le.1 letter.2
  omega

theorem toUpper_toLower (c : Char) : c.toLower.toUpper = c.toUpper := by
  rcases Nat.lt_or_ge c.toNat 128 with low | high
  · exact forall_ascii (P := fun c => c.toLower.toUpper = c.toUpper) (by decide) c low
  · rw [toLower_of_le high]

theorem toLower_toUpper (c : Char) : c.toUpper.toLower = c.toLower := by
  rcases Nat.lt_or_ge c.toNat 128 with low | high
  · exact forall_ascii (P := fun c => c.toUpper.toLower = c.toLower) (by decide) c low
  · rw [toUpper_of_le high]

theorem toLower_eq_hyphen_iff (c : Char) : c.toLower = '-' ↔ c = '-' := by
  rcases Nat.lt_or_ge c.toNat 128 with low | high
  · exact forall_ascii (P := fun c => c.toLower = '-' ↔ c = '-') (by decide) c low
  · rw [toLower_of_le high]

end ApiContract.Text
