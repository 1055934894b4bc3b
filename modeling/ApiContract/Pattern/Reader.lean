import ApiContract.Pattern.Notation
import ApiContract.Pattern.Size
import ApiContract.Text.Letter

/-! # Reading patterns

The notation has literals, `.`, the assertions `^` and `$`, bracketed sets, escapes for classes and
characters, the repetitions `*`, `+`, `?` and counts in braces, groups, which may have names,
alternatives and flags.  A text that does not follow it is no pattern; neither is one that is nested
in more than 250 levels, nor one whose automata are too large.

A pattern is read sign by sign; `Reading` is what has been read of the groups that are open. -/

namespace ApiContract.Pattern

/-! ### Repetitions -/

/-- The digits of a number, with what counts for nothing dropped after each. -/
def takeDigits (f : Flags) : Nat → List Char → List Char × List Char
  | rounds + 1, c :: cs =>
    if c.isDigit then
      let (digits, rest) := takeDigits f rounds (f.skip cs)
      (c :: digits, rest)
    else ([], c :: cs)
  | _, cs => ([], cs)

/-- A decimal number with blanks around it, below `2 ^ 32`. -/
def readCount? (f : Flags) (cs : List Char) : Option (Nat × List Char) := do
  let cs := f.skipBlanks cs
  let (digits, cs) := takeDigits f cs.length cs
  let n ← Text.decimal? digits
  if n < 1 <<< 32 then return (n, f.skipBlanks cs) else none

/-- How often something is repeated. -/
structure Bounds where
  least : Nat
  most : Option Nat

/-- The bounds of a repetition, after the opening brace. -/
def readBounds? (f : Flags) (cs : List Char) : Option (Bounds × List Char) := do
  let (least, cs) ← readCount? f cs
  match cs with
  | '\x7d' :: cs => return (⟨least, some least⟩, f.skip cs)
  | ',' :: cs =>
    match f.skip cs with
    | '\x7d' :: cs => return (⟨least, none⟩, f.skip cs)
    | cs =>
      let (most, cs) ← readCount? f cs
      match cs with
      | '\x7d' :: cs => if least ≤ most then return (⟨least, some most⟩, f.skip cs) else none
      | _ => none
  | _ => none

/-- A repetition sign at the front of a text, with the mark of a lazy one, which changes nothing
in what is found. -/
def readRepetition? (f : Flags) (cs : List Char) : Option (Bounds × List Char) := do
  let (bounds, cs) ← match cs with
    | '*' :: cs => some (⟨0, none⟩, cs)
    | '+' :: cs => some (⟨1, none⟩, cs)
    | '?' :: cs => some (⟨0, some 1⟩, cs)
    | '\x7b' :: cs => readBounds? f cs
    | _ => none
  return (bounds, if cs.head? == some '?' then cs.drop 1 else cs)

/-! ### Groups -/

/-- What an opening parenthesis introduces. -/
inductive GroupHead
  /-- A group whose place is kept, perhaps with a name. -/
  | kept (name : Option (List Char))
  /-- A group with these flags. -/
  | plain (f : Flags)
  /-- Flags for the rest of the enclosing group. -/
  | flags (f : Flags)

/-- A character of a group's name. -/
def isNameChar (first : Bool) (c : Char) : Bool :=
  c = '_' || (if first then Text.isLetter c else Text.isLetterOrNumber c || c ∈ ['.', '[', ']'])

/-- A group's name up to the closing angle bracket. -/
def readName? (cs : List Char) : Option (GroupHead × List Char) := do
  let (name, cs) ← Text.cutAt? (· = '>') cs
  match name with
  | [] => none
  | c :: more =>
    if isNameChar true c && more.all (isNameChar false) then return (.kept name, cs) else none

/-- What stands after an opening parenthesis. -/
def readGroupHead? (f : Flags) (cs : List Char) : Option (GroupHead × List Char) :=
  match f.skip cs with
  | '?' :: 'P' :: '<' :: cs | '?' :: '<' :: cs => readName? cs
  | '?' :: cs =>
    let head := cs.takeWhile fun c => c != ':' && c != ')'
    match cs.drop head.length with
    | ':' :: cs => (f.switchAll? head).map fun f => (.plain f, cs)
    | ')' :: cs => if head.isEmpty then none else (f.switchAll? head).map fun f => (.flags f, cs)
    | _ => none
  | cs => some (.kept none, cs)

/-- A group that is being read: its alternatives, the last one first, the items of the one that is
being read, the last one first, the flags that hold now, and whether the place of the group is
kept. -/
structure Frame where
  done : List (Nested Pattern)
  items : List (Nested Pattern)
  flags : Flags
  keeps : Bool

namespace Frame

/-- A group of which nothing has been read. -/
def start (f : Flags) (keeps : Bool) : Frame := ⟨[], [], f, keeps⟩

/-- Starts a further alternative. -/
def next (g : Frame) : Frame :=
  { g with done := .gather concat g.items.reverse :: g.done, items := [] }

/-- All alternatives. -/
def content (g : Frame) : Nested Pattern := .gather alternation g.next.done.reverse

/-- The group. -/
def close (g : Frame) : Nested Pattern :=
  g.content.around fun p => if g.keeps then .group p else p

/-- Adds an item. -/
def push (g : Frame) (item : Nested Pattern) : Frame := { g with items := item :: g.items }

end Frame

/-! ### Whole patterns -/

/-- What has been read: the current group, the groups around it, the names of groups, and whether
the last item may be repeated. -/
structure Reading where
  current : Frame
  outer : List Frame
  names : List (List Char)
  repeatable : Bool

namespace Reading

/-- Nothing. -/
def start : Reading := ⟨.start .plain false, [], [], false⟩

/-- Adds an item that may be repeated. -/
def push (r : Reading) (item : Nested Pattern) : Reading :=
  { r with current := r.current.push item, repeatable := true }

/-- Opens a group, or switches flags.  No name may occur twice. -/
def openGroup? (r : Reading) (head : GroupHead) : Option Reading :=
  let inside (names : List (List Char)) (f : Flags) (keeps : Bool) : Reading :=
    ⟨.start f keeps, r.current :: r.outer, names, false⟩
  match head with
  | .kept none => some (inside r.names r.current.flags true)
  | .kept (some name) =>
    if r.names.contains name then none
    else some (inside (name :: r.names) r.current.flags true)
  | .plain f => some (inside r.names f false)
  | .flags f =>
    let current := { r.current.push (.flat .empty) with flags := f }
    some { r with current, repeatable := false }

/-- Closes the current group. -/
def closeGroup? (r : Reading) : Option Reading :=
  match r.outer with
  | [] => none
  | enclosing :: outer =>
    some { r with current := enclosing.push r.current.close, outer, repeatable := true }

/-- Repeats the last item. -/
def repeat? (r : Reading) (b : Bounds) : Option Reading :=
  match r.repeatable, r.current.items with
  | true, item :: items =>
    let item := item.around (·.times b.least b.most)
    some { r with current := { r.current with items := item :: items } }
  | _, _ => none

/-- Reads the sign at the front of a text that is not empty. -/
def step? (r : Reading) (cs : List Char) : Option (Reading × List Char) := do
  let f := r.current.flags
  match cs with
  | [] => none
  | '|' :: cs => return ({ r with current := r.current.next, repeatable := false }, cs)
  | '(' :: cs =>
    let (head, cs) ← readGroupHead? f cs
    return (← r.openGroup? head, cs)
  | ')' :: cs => return (← r.closeGroup?, cs)
  | '[' :: cs =>
    let (frame, cs) := readSetHead f cs
    let (s, cs) ← readSet? f (cs.length + 1) [] frame cs
    return (r.push ⟨ofSet s.value, s.levels⟩, cs)
  | '.' :: cs => return (r.push (.flat (ofSet (← f.dot?))), cs)
  | '^' :: cs =>
    let a := if f.multiLine then .lineStart f.returns else .textStart
    return (r.push (.flat (.assertion a)), cs)
  | '$' :: cs =>
    let a := if f.multiLine then .lineEnd f.returns else .textEnd
    return (r.push (.flat (.assertion a)), cs)
  | '\\' :: cs =>
    let (escape, cs) ← readEscape? f cs
    let p := match escape with
      | .char c => f.literal c
      | .set s => ofSet s
      | .assertion a => .assertion a
    return (r.push (.flat p), cs)
  | c :: rest =>
    if c ∈ ['*', '+', '?', '\x7b'] then
      let (bounds, cs) ← readRepetition? f cs
      return (← r.repeat? bounds, cs)
    else return (r.push (.flat (f.literal c)), rest)

/-- Reads a whole text. -/
def readAll? : Nat → Reading → List Char → Option (Nested Pattern)
  | 0, _, _ => none
  | rounds + 1, r, cs =>
    match r.current.flags.skip cs with
    | [] => if r.outer.isEmpty then some r.current.content else none
    | cs => do
      let (r, cs) ← r.step? cs
      readAll? rounds r cs

end Reading

/-- The most levels that a pattern may be nested in. -/
def levelLimit : Nat := 250

/-- The pattern that a text denotes. -/
def read? (text : String) : Option Pattern := do
  let cs := text.toList
  let p ← Reading.readAll? (cs.length + 1) .start cs
  if p.levels ≤ levelLimit ∧ p.value.isSmall then return p.value else none

end ApiContract.Pattern
