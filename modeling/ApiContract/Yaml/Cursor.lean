import ApiContract.Text.Blank
import ApiContract.Yaml.Character

/-! # Places in a YAML text

YAML is read character by character; what a character means depends on its column and on whether
it is the first of its line.  A `Cursor` is a place in a text, and a `Scan` a reading that starts at
one and either ends at another or fails.

Line breaks of one or two characters are unified first, and characters that no YAML text may hold
are refused. -/

namespace ApiContract.Yaml

/-! ### The text as it is read -/

/-- The characters that a YAML text may hold. -/
def isAdmitted (c : Char) : Bool :=
  let n := c.toNat
  n == 0x09 || n == 0x0A || n == 0x0D || (0x20 ≤ n && n ≤ 0x7E) || n == 0x85 ||
    (0xA0 ≤ n && n ≤ 0xFFFD) || 0x10000 ≤ n

/-- A byte order mark. -/
def isMark (c : Char) : Bool := c.toNat == 0xFEFF

/-- Writes each carriage return, with or without a line feed, and each next-line character as one
line feed. -/
def unifyBreaks : List Char → List Char
  | [] => []
  | '\r' :: '\n' :: cs => '\n' :: unifyBreaks cs
  | c :: cs => (if c = '\r' || c.toNat == 0x85 then '\n' else c) :: unifyBreaks cs

/-- The characters of a text as they are read; `none` if one of them is not admitted. -/
def readable? (text : String) : Option (List Char) :=
  if text.toList.all isAdmitted then some (unifyBreaks text.toList) else none

/-! ### Cursors -/

/-- A place in a text: how many characters and lines are before it, how many characters of its line,
and what follows. -/
structure Cursor where
  offset : Nat
  line : Nat
  column : Nat
  rest : List Char
  deriving Repr

namespace Cursor

/-- The start of a text. -/
def start (cs : List Char) : Cursor := ⟨0, 0, 0, cs⟩

/-- The place after the next character. -/
def next (c : Cursor) : Cursor :=
  match c.rest with
  | [] => c
  | x :: cs =>
    if isBreak x then ⟨c.offset + 1, c.line + 1, 0, cs⟩
    else ⟨c.offset + 1, c.line, c.column + 1, cs⟩

/-- The place after `n` characters. -/
def skip (c : Cursor) (n : Nat) : Cursor := n.repeat next c

/-- The next character. -/
def peek? (c : Cursor) : Option Char := c.rest.head?

/-- Whether the text ends here. -/
def atEnd (c : Cursor) : Bool := c.rest.isEmpty

/-- Whether the next character is `x` and a separation follows it. -/
def atMark (c : Cursor) (x : Char) : Bool := c.peek? == some x && separates (c.rest.drop 1)

/-- Whether the line consists of `x` three times, and perhaps more after a separation. -/
def atLineOf (c : Cursor) (x : Char) : Bool :=
  c.column == 0 && c.rest.take 3 == [x, x, x] && separates (c.rest.drop 3)

/-- Whether a line between two documents starts here. -/
def atBoundary (c : Cursor) : Bool := c.atLineOf '-' || c.atLineOf '.'

/-- The longest run of characters that satisfy `p`, and the place after it. -/
def span (c : Cursor) (p : Char → Bool) : List Char × Cursor :=
  let run := c.rest.takeWhile p
  (run, c.skip run.length)

/-- The place of the next token, after spaces, comments and line breaks, and whether a key may start
there.  A byte order mark is skipped at the start of a line.  Outside brackets a new line allows a
key, and where a key may start no tab is skipped. -/
def seek (inFlow : Bool) : Nat → Bool → Cursor → Cursor × Bool
  | 0, keyAllowed, c => (c, keyAllowed)
  | rounds + 1, keyAllowed, c =>
    let c := if c.column == 0 && c.peek?.any isMark then c.next else c
    let c := (c.span fun x => x = ' ' || ((inFlow || !keyAllowed) && x = '\t')).2
    let c := if c.peek? == some '#' then (c.span fun x => !isBreak x).2 else c
    if c.peek?.any isBreak then seek inFlow rounds (keyAllowed || !inFlow) c.next
    else (c, keyAllowed)

end Cursor

/-! ### Readings -/

/-- A reading that may fail. -/
abbrev Scan := StateT Cursor Option

namespace Scan

/-- A reading that fails. -/
def fail {α : Type} : Scan α := fun _ => none

/-- Fails unless `p` holds. -/
def expect (p : Bool) : Scan Unit := if p then pure () else fail

/-- Moves on by `n` characters. -/
def advance (n : Nat) : Scan Unit := modify (·.skip n)

/-- Reads the longest run of characters that satisfy `p`. -/
def run (p : Char → Bool) : Scan (List Char) := modifyGet (·.span p)

/-- Reads one character and fails if it is another one. -/
def char (x : Char) : Scan Unit := do
  expect ((← get).peek? == some x)
  advance 1

/-- Reads with as many rounds as there are characters left, and one more. -/
def rounds {α : Type} (f : Nat → Scan α) : Scan α := do f ((← get).rest.length + 1)

end Scan

end ApiContract.Yaml
