import ApiContract.Json.Basic

/-! # Reading values into native types

A validated value is read into a native type strictly: numbers with a fraction part are no integers,
null is no value, and integers must be in range. -/

namespace ApiContract

/-- The native types that a value can be read into. -/
inductive NativeType
  /-- Integers from 0 to 255. -/
  | byte
  /-- Integers of 64 bits with a sign. -/
  | int64
  | bool
  | text
  /-- Lists of integers of 64 bits. -/
  | int64List
  deriving DecidableEq, Repr

namespace NativeType

/-- An integer within bounds. -/
def isIntIn (low high : Int) : Json → Bool
  | .num (.int n _) => low ≤ n && n ≤ high
  | _ => false

/-- Whether a value can be read into the type. -/
def admits : NativeType → Json → Bool
  | .byte, v => isIntIn 0 255 v
  | .int64, v => isIntIn (-0x8000000000000000) 0x7FFFFFFFFFFFFFFF v
  | .bool, .bool _ => true
  | .text, .str _ => true
  | .int64List, .arr items => items.all (isIntIn (-0x8000000000000000) 0x7FFFFFFFFFFFFFFF)
  | _, _ => false

/-- The value in the type, `none` when it has another. -/
def read? (t : NativeType) (v : Json) : Option Json := if t.admits v then some v else none

end NativeType
end ApiContract
