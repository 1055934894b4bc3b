import ApiContract.Config.Cell
import ApiContract.Proofs.ConfigValidity

/-! # Calls on the settings of a process

Settings are installed and asked for in any order, each time with the environment as it is then.  The first call
writes the cell (`Cell.step_empty`) and no later one does (`Cell.step_written`), so a whole sequence of calls is
known from its first (`Cell.run_empty`).  Everyone who asks gets the settings that are in the cell in the end
(`Cell.held_of_settings`), at most one installation succeeds (`Cell.not_mem_tail_installed`), and the settings are
valid if those that are offered are (`Cell.valid_of_settings`). -/

namespace ApiContract.Config.Cell

/-- A call on the cell. -/
inductive Call
  | install (c : Config)
  /-- Asks for the settings, where the variables of the environment have these values. -/
  | current (maxQueryParams openapiVersion : Option String)
  deriving DecidableEq, Repr

/-- What a call gives. -/
inductive Answer
  | installed
  | rejected (c : Config)
  | settings (c : Config)
  deriving DecidableEq, Repr

/-- One call. -/
def step (cell : Cell) : Call → Answer × Cell
  | .install c =>
    match cell.install c with
    | (.ok (), next) => (.installed, next)
    | (.error c, next) => (.rejected c, next)
  | .current maxQueryParams openapiVersion =>
    let found := cell.current maxQueryParams openapiVersion
    (.settings found.1, found.2)

/-- Calls one after the other. -/
def run (cell : Cell) : List Call → List Answer × Cell
  | [] => ([], cell)
  | call :: calls =>
    let step := cell.step call
    let rest := step.2.run calls
    (step.1 :: rest.1, rest.2)

namespace Call

/-- The settings that a call writes into an empty cell. -/
def offer : Call → Config
  | install c => c
  | current maxQueryParams openapiVersion => ofEnvironment maxQueryParams openapiVersion

/-- What a call on an empty cell gives. -/
def first : Call → Answer
  | install _ => .installed
  | current maxQueryParams openapiVersion => .settings (ofEnvironment maxQueryParams openapiVersion)

/-- What a call gives when there are settings in the cell. -/
def later (c : Config) : Call → Answer
  | install d => .rejected d
  | current _ _ => .settings c

theorem offer_of_first {call : Call} {c : Config} (h : call.first = .settings c) : call.offer = c := by
  cases call with
  | install d => cases h
  | current maxQueryParams openapiVersion => exact Answer.settings.inj h

theorem eq_of_later {call : Call} {c d : Config} (h : call.later c = .settings d) : c = d := by
  cases call with
  | install d => cases h
  | current maxQueryParams openapiVersion => exact Answer.settings.inj h

theorem later_ne_installed (c : Config) (call : Call) : call.later c ≠ .installed := by
  cases call <;> simp [later]

end Call

theorem step_empty (call : Call) : empty.step call = (call.first, ⟨some call.offer⟩) := by
  cases call <;> rfl

theorem step_written (c : Config) (call : Call) :
    (⟨some c⟩ : Cell).step call = (call.later c, ⟨some c⟩) := by
  cases call <;> rfl

theorem run_cons {cell next : Cell} {call : Call} {answer : Answer}
    (called : cell.step call = (answer, next)) (calls : List Call) :
    cell.run (call :: calls) = (answer :: (next.run calls).1, (next.run calls).2) := by
  rw [run, called]

theorem run_written (c : Config) (calls : List Call) :
    (⟨some c⟩ : Cell).run calls = (calls.map (Call.later c), ⟨some c⟩) := by
  induction calls with
  | nil => rfl
  | cons call calls ih => rw [run_cons (step_written c call), ih, List.map_cons]

/-- The first call decides: its settings stay in the cell, whatever is called afterwards. -/
theorem run_empty (call : Call) (calls : List Call) : empty.run (call :: calls) =
    (call.first :: calls.map (Call.later call.offer), ⟨some call.offer⟩) := by
  rw [run_cons (step_empty call), run_written]

section run
variable {calls : List Call} {answers : List Answer} {final : Cell} {c : Config}

theorem run_empty_cases (h : empty.run calls = (answers, final)) :
    (calls = [] ∧ answers = [] ∧ final = empty) ∨
    ∃ call more, calls = call :: more ∧ final = ⟨some call.offer⟩ ∧
      answers = call.first :: more.map (Call.later call.offer) := by
  cases calls with
  | nil =>
      cases h
      exact .inl ⟨rfl, rfl, rfl⟩
  | cons call more =>
      rw [run_empty] at h
      cases h
      exact .inr ⟨call, more, rfl, rfl, rfl⟩

theorem held_of_settings (h : empty.run calls = (answers, final)) (given : .settings c ∈ answers) :
    final.held = some c := by
  obtain ⟨-, rfl, -⟩ | ⟨call, more, -, rfl, rfl⟩ := run_empty_cases h
  · cases given
  · apply congrArg some
    rcases List.mem_cons.1 given with own | given
    · exact Call.offer_of_first own.symm
    · obtain ⟨other, -, found⟩ := List.mem_map.1 given
      exact Call.eq_of_later found

theorem exists_offer_of_held (h : empty.run calls = (answers, final)) (held : final.held = some c) :
    ∃ call ∈ calls, call.offer = c := by
  obtain ⟨-, -, rfl⟩ | ⟨call, more, rfl, rfl, -⟩ := run_empty_cases h
  · cases held
  · exact ⟨call, List.mem_cons_self, Option.some.inj held⟩

/-- Only the first call can install settings. -/
theorem not_mem_tail_installed (h : empty.run calls = (answers, final)) :
    .installed ∉ answers.tail := by
  obtain ⟨-, rfl, -⟩ | ⟨call, more, -, -, rfl⟩ := run_empty_cases h
  · exact List.not_mem_nil
  · intro mem
    obtain ⟨other, -, found⟩ := List.mem_map.1 mem
    exact Call.later_ne_installed _ other found

/-- Installing checks nothing, and neither does the environment: the settings that are given are valid if those
that are installed are, and if the environment does not set the version to nothing. -/
theorem valid_of_settings (h : empty.run calls = (answers, final))
    (installed : ∀ d, .install d ∈ calls → d.Valid)
    (named : ∀ maxQueryParams, .current maxQueryParams (some "") ∉ calls)
    (given : .settings c ∈ answers) : c.Valid := by
  obtain ⟨call, mem, rfl⟩ := exists_offer_of_held h (held_of_settings h given)
  cases call with
  | install d => exact installed d mem
  | current maxQueryParams openapiVersion =>
      refine ⟨maxQueryParams_ofEnvironment_pos _ _, fun empty => ?_⟩
      rw [(openapiVersion_ofEnvironment_eq_empty_iff _ _).1 empty] at mem
      exact named maxQueryParams mem

end run
end ApiContract.Config.Cell
