import ApiContract.Config

/-! # The settings of a process

A process keeps its settings in one cell, which is written once: by the first settings that are installed, or,
if settings are asked for before that, by those that the environment gives then. -/

namespace ApiContract.Config

/-- The cell of a process for its settings. -/
structure Cell where
  /-- The settings in the cell, if it has been written. -/
  held : Option Config
  deriving DecidableEq, Repr

namespace Cell

/-- The cell of a process that starts. -/
def empty : Cell := ⟨none⟩

/-- Puts settings into the cell.  They are handed back if it has been written before. -/
def install (cell : Cell) (c : Config) : Except Config Unit × Cell :=
  match cell.held with
  | none => (.ok (), ⟨some c⟩)
  | some _ => (.error c, cell)

/-- The settings in the cell.  An empty cell gets those that two variables of the environment give. -/
def current (cell : Cell) (maxQueryParams openapiVersion : Option String) : Config × Cell :=
  match cell.held with
  | none =>
    let c := ofEnvironment maxQueryParams openapiVersion
    (c, ⟨some c⟩)
  | some c => (c, cell)

end Cell
end ApiContract.Config
