/-! # Violations

A violation says what is wrong with a part of a value, and where that part is: keys joined by `.`
and indices in brackets, with nothing for the value as a whole. -/

namespace ApiContract

/-- Joins two paths; a path that starts with an index needs no dot before it. -/
def joinPath (outer inner : String) : String :=
  if outer.isEmpty then inner
  else if inner.isEmpty then outer
  else if inner.toList.head? = some '[' then outer ++ inner
  else outer ++ "." ++ inner

/-- What is wrong with the part of a value at a path. -/
structure Violation where
  path : String
  message : String
  deriving DecidableEq, Repr

namespace Violation

/-- A violation of the value as a whole. -/
def whole (message : String) : Violation := ⟨"", message⟩

/-- The same violation, seen from a value that holds the violating one at `outer`. -/
def nested (outer : String) (v : Violation) : Violation := { v with path := joinPath outer v.path }

/-- One line: the path, if there is one, and the message. -/
def text (v : Violation) : String :=
  if v.path.isEmpty then v.message else v.path ++ ": " ++ v.message

/-- A heading followed by all violations. -/
def listing (heading : String) (violations : List Violation) : String :=
  String.join (heading :: violations.map fun v => "; " ++ v.text)

end Violation

/-- The result of reading a value: what it means, or all its violations. -/
abbrev Checked (α : Type) := Except (List Violation) α

namespace Checked

variable {α β : Type}

/-- Violates the value as a whole. -/
def fail (message : String) : Checked α := .error [.whole message]

/-- The same result, seen from a value that holds this one at `outer`. -/
def nest (outer : String) : Checked α → Checked α :=
  Except.mapError fun vs => vs.map (·.nested outer)

/-- The violations of a result. -/
def violations : Checked α → List Violation
  | .ok _ => []
  | .error vs => vs

/-- All results, or the violations of all. -/
def all (results : List (Checked α)) : Checked (List α) :=
  match results.flatMap violations with
  | [] => .ok (results.filterMap Except.toOption)
  | vs => .error vs

@[simp] theorem nest_ok (outer : String) (a : α) : nest outer (.ok a) = .ok a := rfl

@[simp] theorem nest_error (outer : String) (vs : List Violation) :
    nest outer (.error vs : Checked α) = .error (vs.map (·.nested outer)) := rfl

@[simp] theorem violations_nest (outer : String) (r : Checked α) :
    (r.nest outer).violations = r.violations.map (·.nested outer) := by
  cases r <;> rfl

@[simp] theorem violations_map (f : α → β) (r : Checked α) :
    violations (r.map f) = r.violations := by
  cases r <;> rfl

/-- No violation gets lost where results are collected, and none is added. -/
@[simp] theorem violations_all (results : List (Checked α)) :
    (all results).violations = results.flatMap violations := by
  unfold all
  split
  · next none => exact none.symm
  · rfl

theorem nest_eq_ok {outer : String} {r : Checked α} {a : α} : r.nest outer = .ok a ↔ r = .ok a := by
  cases r <;> simp

theorem map_eq_ok_iff {f : α → β} {r : Checked α} {b : β} :
    r.map f = .ok b ↔ ∃ a, r = .ok a ∧ f a = b := by
  cases r <;> simp [Except.map]

theorem nest_ne_error_nil (outer : String) {r : Checked α} (h : r ≠ .error []) :
    r.nest outer ≠ .error [] := by
  cases r with
  | error vs => simpa using h
  | ok a => simp

theorem map_ne_error_nil {f : α → β} {r : Checked α} (h : r ≠ .error []) : r.map f ≠ .error [] := by
  cases r with
  | error vs => simpa [Except.map] using h
  | ok a => simp [Except.map]

theorem all_eq_error_iff {results : List (Checked α)} {vs : List Violation} :
    all results = .error vs ↔ results.flatMap violations = vs ∧ vs ≠ [] := by
  unfold all
  split
  · next h => rw [h]; simp [eq_comm]
  · next h => simp only [Except.error.injEq]; exact ⟨fun e => ⟨e, e ▸ h⟩, And.left⟩

/-- A list of results fails with at least one violation, whatever its members fail with. -/
theorem all_ne_error_nil (results : List (Checked α)) : all results ≠ .error [] := fun h =>
  (all_eq_error_iff.1 h).2 rfl

theorem violations_eq_nil_iff {r : Checked α} (h : r ≠ .error []) :
    r.violations = [] ↔ ∃ a, r = .ok a := by
  cases r with
  | error vs => simpa [violations] using h
  | ok a => simp [violations]

theorem eq_map_ok {results : List (Checked α)} (h : ∀ r ∈ results, r ≠ .error [])
    (none : ∀ r ∈ results, r.violations = []) :
    results = (results.filterMap Except.toOption).map .ok := by
  induction results with
  | nil => rfl
  | cons r rest ih =>
    obtain ⟨a, rfl⟩ := (violations_eq_nil_iff (h r List.mem_cons_self)).1 (none r List.mem_cons_self)
    have tail := ih (fun r hr => h r (List.mem_cons_of_mem _ hr))
      fun r hr => none r (List.mem_cons_of_mem _ hr)
    exact congrArg (Except.ok a :: ·) tail

theorem all_map_ok (as : List α) : all (as.map .ok) = .ok as := by
  have none : (as.map Except.ok).flatMap violations = [] := by
    rw [List.flatMap_eq_nil_iff]
    intro r hr
    obtain ⟨a, -, rfl⟩ := List.mem_map.1 hr
    rfl
  simp only [all, none, List.filterMap_map]
  exact congrArg Except.ok (List.filterMap_some (l := as))

section map
variable {γ : Type} {g : γ → Checked α} {xs : List γ}

/-- If all readings succeed, each result is that of some reading. -/
theorem exists_source {as : List α} (h : xs.map g = as.map .ok) {a : α} (ha : a ∈ as) :
    ∃ x ∈ xs, g x = .ok a := by
  have listed := List.mem_map_of_mem (f := Except.ok (ε := List Violation)) ha
  rw [← h] at listed
  exact List.mem_map.1 listed

/-- If all readings succeed, each has a result among theirs. -/
theorem exists_result {as : List α} (h : xs.map g = as.map .ok) {x : γ} (hx : x ∈ xs) :
    ∃ a ∈ as, g x = .ok a := by
  have listed := List.mem_map_of_mem (f := g) hx
  rw [h] at listed
  obtain ⟨a, ha, same⟩ := List.mem_map.1 listed
  exact ⟨a, ha, same.symm⟩

theorem exists_map_eq_map_ok_iff :
    (∃ as : List α, xs.map g = as.map .ok) ↔ ∀ x ∈ xs, ∃ a, g x = .ok a := by
  constructor
  · rintro ⟨as, h⟩ x hx
    obtain ⟨a, -, read⟩ := exists_result h hx
    exact ⟨a, read⟩
  · intro h
    induction xs with
    | nil => exact ⟨[], rfl⟩
    | cons x rest ih =>
      obtain ⟨a, ha⟩ := h x List.mem_cons_self
      obtain ⟨as, has⟩ := ih fun y hy => h y (List.mem_cons_of_mem _ hy)
      exact ⟨a :: as, by rw [List.map_cons, List.map_cons, ha, has]⟩

end map

/-- A list of results succeeds if all of them do, unless one fails without a violation. -/
theorem all_eq_ok_iff {results : List (Checked α)} (h : ∀ r ∈ results, r ≠ .error []) {as : List α} :
    all results = .ok as ↔ results = as.map .ok := by
  constructor
  · intro e
    unfold all at e
    split at e
    · next none =>
      rw [List.flatMap_eq_nil_iff] at none
      rw [← Except.ok.inj e]
      exact eq_map_ok h none
    · cases e
  · rintro rfl
    exact all_map_ok as

end Checked
end ApiContract
