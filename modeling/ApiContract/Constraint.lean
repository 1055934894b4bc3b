import ApiContract.Json.Printer

/-! # Constraints

A constraint is a predicate on values that have been read already, with a label for diagnostics.  It
is opaque: any function may stand in it, and only reading runs it. -/

namespace ApiContract

/-- A labelled predicate on values; an error says what a value must satisfy. -/
structure Constraint where
  label : String
  check : Json → Except String Unit

namespace Constraint

/-- Fails with a message unless a condition holds. -/
def require (condition : Bool) (message : String) : Except String Unit :=
  if condition then .ok () else .error message

/-- One of the listed values. -/
def oneOf (allowed : List Json) : Constraint :=
  let listing := String.intercalate ", " (allowed.map Json.compact)
  { label := "one_of(" ++ listing ++ ")"
    check := fun v => require (allowed.any (·.same v)) ("must be one of " ++ listing) }

/-- How a label writes an optional bound. -/
def optionLabel {α : Type} (write : α → String) : Option α → String
  | some a => "Some(" ++ write a ++ ")"
  | none => "None"

/-- A number within inclusive bounds; an integer is compared by its nearest binary64 number. -/
def range (min max : Option Binary64) : Constraint :=
  let bound := optionLabel DecimalLayout.label.write
  { label := "range(" ++ bound min ++ ", " ++ bound max ++ ")"
    check := fun v =>
      match v.toBinary64? with
      | none => .error "must be numeric"
      | some x => do
        if let some least := min then
          require (!decide (x < least))
            ("must be greater than or equal to " ++ DecimalLayout.message.write least)
        if let some most := max then
          require (!decide (most < x))
            ("must be less than or equal to " ++ DecimalLayout.message.write most) }

/-- The number of characters of a text or of items of a list. -/
def extent? : Json → Option Nat
  | .str s => some s.length
  | .arr items => some items.length
  | _ => none

/-- A text or list whose length is within inclusive bounds. -/
def length (min : Nat) (max : Option Nat) : Constraint :=
  { label := "length(" ++ toString min ++ ", " ++ optionLabel toString max ++ ")"
    check := fun v =>
      match extent? v with
      | none => .error "must be a string or an array"
      | some n => do
        require (min ≤ n) ("must have at least " ++ toString min ++ " element(s)")
        if let some most := max then
          require (n ≤ most) ("must have at most " ++ toString most ++ " element(s)") }

/-- How a constraint appears in diagnostics. -/
def debugLabel (c : Constraint) : String := "Constraint(" ++ c.label ++ ")"

end Constraint
end ApiContract
