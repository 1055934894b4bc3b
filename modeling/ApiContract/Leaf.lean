import ApiContract.Calendar
import ApiContract.Json.Printer
import ApiContract.Number.Decimal

/-! # Leaf types

A leaf is a type with no parts: a name, which is its identity, and a reader that turns an untyped
value into one of the type.  Values from the wire are texts, so every reader also takes the text of
its values.

| leaf | takes |
|---|---|
| `string` | texts; numbers and truth values by their text |
| `integer` | integers; numbers with no fraction and texts of integers, within 64 bits |
| `number` | numbers; texts of finite decimal numbers |
| `boolean` | truth values; the usual words for them |
| `date`, `date-time` | texts of days and moments |
| `uuid` | texts of 32 hexadecimal digits in the usual groups, put into lower case |
| `any` | everything |
| `null` | null and the empty text | -/

namespace ApiContract

/-- A type with no parts: its name, and how a value of it is read. -/
structure Leaf where
  name : String
  /-- The typed value of an untyped one, or why there is none. -/
  read : Json → Except String Json

namespace Leaf

/-- The integer as a value, if it has at most 64 bits with its sign. -/
def signed64? (n : Int) : Option Json :=
  if h : -0x8000000000000000 ≤ n ∧ n < 0x8000000000000000 then some (.num (.int n ⟨h.1, by omega⟩)) else none

/-- Turns an absent value into an error. -/
def orError (message : String) : Option Json → Except String Json
  | some v => .ok v
  | none => .error message

/-- Texts as they are, numbers and truth values by their text. -/
def readString : Json → Except String Json
  | .str s => .ok (.str s)
  | .num n => .ok (.str n.text)
  | .bool b => .ok (.str (toString b))
  | _ => .error "must be a string"

/-- Integers as they are, other numbers and texts when they denote an integer of 64 bits. -/
def readInteger (v : Json) : Except String Json :=
  orError "must be an integer" <| match v with
    | .num (.int _ _) => some v
    | .num (.float x) => x.toInt?.bind signed64?
    | .str s => (Text.integer? (Text.trim s.toList)).bind signed64?
    | _ => none

/-- Numbers as they are, texts when they denote a finite one. -/
def readNumber (v : Json) : Except String Json :=
  orError "must be a number" <| match v with
    | .num _ => some v
    | .str s => (Binary64.ofText? (Text.trim s.toList)).map fun x => .num (.float x)
    | _ => none

/-- The words for a truth value, in any case of letters. -/
def truthValue? (word : String) : Option Bool :=
  if word ∈ ["1", "on", "t", "true", "y", "yes"] then some true
  else if word ∈ ["0", "off", "f", "false", "n", "no"] then some false
  else none

/-- Truth values as they are, texts when they are a word for one. -/
def readBoolean (v : Json) : Except String Json :=
  orError "must be a boolean" <| match v with
    | .bool _ => some v
    | .str s => (truthValue? (Text.lowerAscii (Text.trimmed s))).map .bool
    | _ => none

/-- Texts that satisfy a predicate, unchanged. -/
def readTextWhere (p : List Char → Bool) (message : String) : Json → Except String Json
  | .str s => if p s.toList then .ok (.str s) else .error message
  | _ => .error message

/-- Groups of hexadecimal digits of the given sizes, separated by hyphens. -/
def isHexGroups (sizes : List Nat) (cs : List Char) : Bool :=
  let groups := Text.splitBy (· = '-') cs
  groups.map List.length == sizes && groups.all fun g => g.all fun c => (Text.hexValue? c).isSome

/-- The text of a universally unique identifier. -/
def isUuidText (cs : List Char) : Bool := isHexGroups [8, 4, 4, 4, 12] cs

/-- Identifiers, in lower case. -/
def readUuid : Json → Except String Json
  | .str s =>
    if isUuidText s.toList then .ok (.str (Text.lowerAscii s)) else .error "must be a UUID"
  | _ => .error "must be a UUID"

/-- Null, for which the empty text also stands. -/
def readNull : Json → Except String Json
  | .null => .ok .null
  | .str s => if s.isEmpty then .ok .null else .error "must be null"
  | _ => .error "must be null"

/-! ### The built-in leaves -/

/-- Text. -/
def string : Leaf := ⟨"string", readString⟩
/-- Integers of 64 bits. -/
def integer : Leaf := ⟨"integer", readInteger⟩
/-- Numbers. -/
def number : Leaf := ⟨"number", readNumber⟩
/-- Truth values. -/
def boolean : Leaf := ⟨"boolean", readBoolean⟩
/-- Days. -/
def date : Leaf := ⟨"date", readTextWhere Calendar.isDateText "must be a date (YYYY-MM-DD)"⟩
/-- Moments. -/
def dateTime : Leaf :=
  ⟨"date-time", readTextWhere Calendar.isDateTimeText "must be an RFC 3339 date-time"⟩
/-- Identifiers. -/
def uuid : Leaf := ⟨"uuid", readUuid⟩
/-- Any value, unchanged. -/
def any : Leaf := ⟨"any", .ok⟩
/-- The absence of a value. -/
def null : Leaf := ⟨"null", readNull⟩

/-- All built-in leaves. -/
def builtin : List Leaf := [string, integer, number, boolean, date, dateTime, uuid, any, null]

/-- The leaf of absence is told by its name. -/
def isAbsence (l : Leaf) : Bool := l.name == null.name

/-- Leaves for which the empty text is a value. -/
def isTextual (l : Leaf) : Bool := l.name == string.name || l.name == any.name

/-- How a leaf appears in diagnostics. -/
def label (l : Leaf) : String := "Leaf(" ++ l.name ++ ")"

end Leaf
end ApiContract
