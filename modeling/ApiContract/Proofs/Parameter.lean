import ApiContract.Parameter.Basic
import ApiContract.Proofs.Coercion

/-! # Reading a parameter

What stands for a parameter on the wire decides how it is read.  A raw value is read at the type of the
parameter (`retrieve_of_raw`), a query string that cannot be parsed is an error of the parameter
(`retrieve_of_raw_error`), and without a raw value the parameter is missing or has its default
(`retrieve_of_absent`).

A parameter that cannot be read names a violation (`retrieve_error`), as coercion does. -/

namespace ApiContract
namespace Parameter

variable {c : Catalog} {view : RequestView} {captures : Captures} {p : Parameter} {raw : RawValue}
  {v : Json} {err : ParameterError}

/-! ### Raw values -/

theorem readRaw_eq_ok_iff :
    p.readRaw c raw = .ok v ↔ p.type.coerce c (candidate raw p.type p.style) = .ok v := by
  unfold readRaw
  cases read : p.type.coerce c (candidate raw p.type p.style) with
  | error vs =>
      constructor
      · intro h
        cases h
      · intro h
        cases h
  | ok w =>
      constructor
      · intro h
        cases h
        rfl
      · intro h
        cases h
        rfl

theorem readRaw_eq_error_iff : p.readRaw c raw = .error err ↔
    ∃ vs, p.type.coerce c (candidate raw p.type p.style) = .error vs ∧
      err = .unparseable p.wireName p.location vs := by
  unfold readRaw
  cases read : p.type.coerce c (candidate raw p.type p.style) with
  | error vs =>
      constructor
      · intro h
        cases h
        exact ⟨vs, rfl, rfl⟩
      · rintro ⟨_, h, rfl⟩
        cases h
        rfl
  | ok w =>
      constructor
      · intro h
        cases h
      · rintro ⟨_, h, -⟩
        cases h

theorem readRaw_error (h : p.readRaw c raw = .error err) : err.violations ≠ [] := by
  obtain ⟨vs, read, rfl⟩ := readRaw_eq_error_iff.1 h
  intro none
  obtain rfl := List.map_eq_nil_iff.1 none
  exact Descriptor.coerce_ne_error_nil c _ _ read

theorem raw_error (h : p.raw view captures = .error err) : view.pairs = .error err := by
  unfold raw at h
  split at h
  · cases h
  · cases pairs : view.pairs with
    | error e => rw [pairs] at h; cases h; rfl
    | ok ps => rw [pairs] at h; cases h
  · cases h
  · cases h

/-! ### The value on the wire -/

theorem lookup_of_raw_error (wire : p.raw view captures = .error err) :
    p.lookup c view captures = .error err := by
  unfold lookup
  rw [wire]
  rfl

theorem lookup_of_absent (wire : p.raw view captures = .ok none) :
    p.lookup c view captures = .ok none := by
  unfold lookup
  rw [wire]
  rfl

theorem lookup_of_raw (wire : p.raw view captures = .ok (some raw)) :
    p.lookup c view captures = (p.readRaw c raw).map some := by
  unfold lookup
  rw [wire]
  show (p.readRaw c raw >>= fun v => pure (some v)) = _
  cases p.readRaw c raw with
  | error err => rfl
  | ok v => rfl

theorem lookup_eq_ok_some_iff : p.lookup c view captures = .ok (some v) ↔
    ∃ raw, p.raw view captures = .ok (some raw) ∧ p.readRaw c raw = .ok v := by
  constructor
  · intro found
    cases wire : p.raw view captures with
    | error err => rw [lookup_of_raw_error wire] at found; cases found
    | ok raw? =>
        cases raw? with
        | none => rw [lookup_of_absent wire] at found; cases found
        | some raw =>
            rw [lookup_of_raw wire] at found
            cases read : p.readRaw c raw with
            | error err => rw [read] at found; cases found
            | ok w =>
                rw [read] at found
                cases found
                exact ⟨raw, rfl, read⟩
  · rintro ⟨raw, wire, read⟩
    rw [lookup_of_raw wire, read]
    rfl

/-! ### The value of the parameter -/

theorem retrieve_of_raw_error (wire : p.raw view captures = .error err) :
    p.retrieve c view captures = .error err := by
  unfold retrieve
  rw [lookup_of_raw_error wire]
  rfl

theorem retrieve_of_absent (wire : p.raw view captures = .ok none) :
    p.retrieve c view captures =
      if p.required then .error (.missing p.wireName p.location) else .ok p.type.defaultValue? := by
  unfold retrieve
  rw [lookup_of_absent wire]
  rfl

theorem retrieve_of_raw (wire : p.raw view captures = .ok (some raw)) :
    p.retrieve c view captures = (p.readRaw c raw).map some := by
  unfold retrieve
  rw [lookup_of_raw wire]
  cases p.readRaw c raw with
  | error err => rfl
  | ok v => rfl

/-- A parameter's value is what its raw value is read as, or its default where it may be absent. -/
theorem retrieve_eq_ok_some_iff : p.retrieve c view captures = .ok (some v) ↔
    (∃ raw, p.raw view captures = .ok (some raw) ∧
      p.type.coerce c (candidate raw p.type p.style) = .ok v) ∨
    (p.raw view captures = .ok none ∧ p.required = false ∧ p.type.defaultValue? = some v) := by
  cases wire : p.raw view captures with
  | error err => simp [retrieve_of_raw_error wire]
  | ok raw? =>
      cases raw? with
      | none =>
          rw [retrieve_of_absent wire]
          cases p.required <;> simp
      | some raw =>
          rw [retrieve_of_raw wire]
          simp only [Except.ok.injEq, Option.some.injEq, exists_eq_left', reduceCtorEq, false_and,
            or_false, ← readRaw_eq_ok_iff]
          cases p.readRaw c raw with
          | error err => simp [Except.map]
          | ok w => simp [Except.map]

theorem retrieve_error (parsed : ∀ err, view.pairs = .error err → err.violations ≠ [])
    (h : p.retrieve c view captures = .error err) : err.violations ≠ [] := by
  cases wire : p.raw view captures with
  | error e =>
      rw [retrieve_of_raw_error wire] at h
      cases h
      exact parsed err (raw_error wire)
  | ok raw? =>
      cases raw? with
      | none =>
          rw [retrieve_of_absent wire] at h
          split at h
          · cases h
            simp [ParameterError.violations]
          · cases h
      | some raw =>
          rw [retrieve_of_raw wire] at h
          cases read : p.readRaw c raw with
          | error e =>
              rw [read] at h
              cases h
              exact readRaw_error read
          | ok v => rw [read] at h; cases h

end Parameter
end ApiContract
