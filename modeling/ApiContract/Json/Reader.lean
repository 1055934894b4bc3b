import ApiContract.Json.Basic
import ApiContract.Text.Blank

/-! # Reading JSON text

`Json.parse?` reads one value that fills the text but for blanks around it.  At most 127 lists and
objects may be open at once.  Inside a text no character below U+0020 stands for itself, and an
escaped surrogate must be the first of a pair; of members with one key the last counts.

Each loop is given a number of rounds; every round takes a character at least, so the length of
the text is always enough. -/

namespace ApiContract.Json

/-- JSON's blanks. -/
def isGap (c : Char) : Bool := c = ' ' || c = '\t' || c = '\n' || c = '\r'

/-- What follows the blanks. -/
def skipGap (cs : List Char) : List Char := cs.dropWhile isGap


/-- Four hexadecimal digits, and what follows them. -/
def readUnit? : List Char → Option (Nat × List Char)
  | a :: b :: c :: d :: cs => do
    let a ← Text.hexValue? a
    let b ← Text.hexValue? b
    let c ← Text.hexValue? c
    let d ← Text.hexValue? d
    return (a * 4096 + b * 256 + c * 16 + d, cs)
  | _ => none

/-- A character given by its number in UTF-16: one unit, or a pair of surrogates. -/
def readEscapedUnits? (cs : List Char) : Option (Char × List Char) := do
  let (high, cs) ← readUnit? cs
  if 0xD800 ≤ high ∧ high < 0xDC00 then
    match cs with
    | '\\' :: 'u' :: cs =>
      let (low, cs) ← readUnit? cs
      if 0xDC00 ≤ low ∧ low < 0xE000 then
        return (Char.ofNat (0x10000 + (high - 0xD800) * 0x400 + (low - 0xDC00)), cs)
      else none
    | _ => none
  else if 0xDC00 ≤ high ∧ high < 0xE000 then none
  else return (Char.ofNat high, cs)

/-- What stands after a backslash. -/
def readEscape? : List Char → Option (Char × List Char)
  | '"' :: cs => some ('"', cs)
  | '\\' :: cs => some ('\\', cs)
  | '/' :: cs => some ('/', cs)
  | 'b' :: cs => some (Char.ofNat 8, cs)
  | 'f' :: cs => some (Char.ofNat 12, cs)
  | 'n' :: cs => some ('\n', cs)
  | 'r' :: cs => some ('\r', cs)
  | 't' :: cs => some ('\t', cs)
  | 'u' :: cs => readEscapedUnits? cs
  | _ => none

/-- One character of a text, and what follows it. -/
def readTextChar? : List Char → Option (Char × List Char)
  | '\\' :: cs => readEscape? cs
  | c :: cs => if c.toNat < 32 ∨ c = '"' then none else some (c, cs)
  | [] => none

/-- The characters of a text up to its closing quote, and what follows that. -/
def readText? : Nat → List Char → Option (List Char × List Char)
  | 0, _ => none
  | rounds + 1, cs =>
    match cs with
    | '"' :: cs => some ([], cs)
    | cs => do
      let (c, cs) ← readTextChar? cs
      let (text, cs) ← readText? rounds cs
      return (c :: text, cs)

/-- Items separated by commas up to the closing bracket. -/
def readItems? (item : List Char → Option (Json × List Char)) :
    Nat → List Char → Option (List Json × List Char)
  | 0, _ => none
  | rounds + 1, cs => do
    let (value, cs) ← item cs
    match skipGap cs with
    | ']' :: cs => return ([value], cs)
    | ',' :: cs =>
      let (values, cs) ← readItems? item rounds cs
      return (value :: values, cs)
    | _ => none

/-- Members separated by commas up to the closing brace. -/
def readMembers? (item : List Char → Option (Json × List Char)) (limit : Nat) :
    Nat → List Char → Option (List (String × Json) × List Char)
  | 0, _ => none
  | rounds + 1, cs =>
    match skipGap cs with
    | '"' :: cs => do
      let (key, cs) ← readText? limit cs
      match skipGap cs with
      | ':' :: cs =>
        let (value, cs) ← item cs
        match skipGap cs with
        | '}' :: cs => return ([(String.ofList key, value)], cs)
        | ',' :: cs =>
          let (members, cs) ← readMembers? item limit rounds cs
          return ((String.ofList key, value) :: members, cs)
        | _ => none
      | _ => none
    | _ => none

/-- Reads a value with at most `depth` lists and objects open at once, and loops of at most
`limit` rounds. -/
def readValue? (limit : Nat) (depth : Nat) (cs : List Char) : Option (Json × List Char) :=
  match skipGap cs, depth with
  | 'n' :: 'u' :: 'l' :: 'l' :: cs, _ => some (.null, cs)
  | 't' :: 'r' :: 'u' :: 'e' :: cs, _ => some (.bool true, cs)
  | 'f' :: 'a' :: 'l' :: 's' :: 'e' :: cs, _ => some (.bool false, cs)
  | '"' :: cs, _ => (readText? limit cs).map fun (text, cs) => (.str (String.ofList text), cs)
  | '[' :: cs, depth + 1 =>
    match skipGap cs with
    | ']' :: cs => some (.arr [], cs)
    | cs => (readItems? (readValue? limit depth) limit cs).map fun (items, cs) => (.arr items, cs)
  | '{' :: cs, depth + 1 =>
    match skipGap cs with
    | '}' :: cs => some (.obj [], cs)
    | cs => (readMembers? (readValue? limit depth) limit limit cs).map fun (members, cs) =>
      (object members, cs)
  | cs, _ => (Number.read? cs).map fun (n, cs) => (.num n, cs)

/-- Reads a whole text. -/
def parse? (text : String) : Option Json := do
  let cs := text.toList
  let (value, rest) ← readValue? (cs.length + 1) 127 cs
  if (skipGap rest).isEmpty then return value else none

end ApiContract.Json
