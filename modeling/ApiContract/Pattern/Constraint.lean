import ApiContract.Constraint
import ApiContract.Pattern.Reader
import ApiContract.Pattern.Search

/-! # Constraints on texts by patterns -/

namespace ApiContract.Constraint

/-- A text of which some part is matched; `none` when `source` denotes no pattern. -/
def pattern? (source : String) : Option Constraint :=
  (Pattern.read? source).map fun p =>
    { label := "pattern(" ++ source ++ ")"
      check := fun v =>
        match v with
        | .str s => require (p.foundIn s) ("must match " ++ source)
        | _ => .error ("must match " ++ source) }

end ApiContract.Constraint
