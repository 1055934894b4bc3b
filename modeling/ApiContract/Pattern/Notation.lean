import ApiContract.Pattern.Basic
import ApiContract.Text.Blank

/-! # The notation of sets and characters

What a pattern's notation says at a place depends on the flags that hold there.  This module has the
flags, the escapes behind a backslash and the sets in brackets.

A set is closed under case where case is ignored: each operand of an operator, each named class and
each pair of brackets, and that before it is complemented.

Every function that loops is given a number of rounds; each round takes a character at least, so
the length of the text is always enough. -/

namespace ApiContract.Pattern

/-! ### Levels -/

/-- A value, and in how many levels its notation is nested. -/
structure Nested (α : Type) where
  value : α
  levels : Nat
  deriving Repr

namespace Nested

/-- A value that is written without a level of its own. -/
def flat {α : Type} (a : α) : Nested α := ⟨a, 0⟩

/-- A value that is written around another one. -/
def around {α β : Type} (f : α → β) (a : Nested α) : Nested β := ⟨f a.value, a.levels + 1⟩

/-- A value that is written around two others. -/
def around₂ {α β γ : Type} (f : α → β → γ) (a : Nested α) (b : Nested β) : Nested γ :=
  ⟨f a.value b.value, max a.levels b.levels + 1⟩

/-- Several values in one; this adds no level to a single one. -/
def gather {α : Type} (f : List α → α) : List (Nested α) → Nested α
  | [] => ⟨f [], 0⟩
  | [a] => a
  | as => ⟨f (as.map (·.value)), (as.map (·.levels)).foldl max 0 + 1⟩

end Nested

/-! ### Flags -/

/-- What is switched on. -/
structure Flags where
  /-- Letters match in either case. -/
  ignoreCase : Bool
  /-- `^` and `$` hold at every line's ends. -/
  multiLine : Bool
  /-- `.` admits the characters that end lines. -/
  dotAll : Bool
  /-- A carriage return ends a line too. -/
  returns : Bool
  /-- Blanks and comments between the signs of the notation count for nothing. -/
  layout : Bool
  /-- Sets have no members beyond the first 128 characters. -/
  ascii : Bool

namespace Flags

/-- All switched off. -/
def plain : Flags := ⟨false, false, false, false, false, false⟩

/-- Switches one flag.  Greed has no effect, for it changes nothing in what is found. -/
def switch? (f : Flags) (on : Bool) : Char → Option Flags
  | 'i' => some { f with ignoreCase := on }
  | 'm' => some { f with multiLine := on }
  | 's' => some { f with dotAll := on }
  | 'R' => some { f with returns := on }
  | 'x' => some { f with layout := on }
  | 'u' => some { f with ascii := !on }
  | 'U' => some f
  | _ => none

/-- Switches the flags of a group's head: letters, of which none occurs twice, and at most one
minus sign, which is followed by letters. -/
def switchAll? (f : Flags) (head : List Char) : Option Flags :=
  let on := head.takeWhile (· != '-')
  let off := (head.dropWhile (· != '-')).drop 1
  let letters := on ++ off
  if letters.eraseDups.length = letters.length ∧ (off.isEmpty → !head.contains '-') then do
    let f ← on.foldlM (switch? · true) f
    off.foldlM (switch? · false) f
  else none

/-- Drops blanks and comments, which go from a hash to the end of the line. -/
def dropLayout (inComment : Bool) : List Char → List Char
  | [] => []
  | c :: cs =>
    if inComment then dropLayout (c != '\n') cs
    else if Text.isBlank c then dropLayout false cs
    else if c = '#' then dropLayout true cs
    else c :: cs

/-- Drops what counts for nothing between two signs. -/
def skip (f : Flags) (cs : List Char) : List Char := if f.layout then dropLayout false cs else cs

/-- Drops the blanks around a number. -/
def skipBlanks (f : Flags) (cs : List Char) : List Char :=
  if f.layout then dropLayout false cs else cs.dropWhile Text.isBlank

/-- Closes a set under case where case is ignored. -/
def fold (f : Flags) (s : CharSet) : CharSet :=
  if !f.ignoreCase then s else if f.ascii then s.folded.inter .ascii else s.folded

/-- A set that is written; `none` if it has members that the flags do not allow. -/
def admit? (f : Flags) (s : CharSet) : Option CharSet :=
  if f.ascii && !s.isAscii then none else some s

/-- A set or its complement, closed under case before. -/
def fold? (f : Flags) (negated : Bool) (s : CharSet) : Option CharSet :=
  f.admit? (if negated then (f.fold s).compl else f.fold s)

/-- One character as it is written. -/
def literal (f : Flags) (c : Char) : Pattern :=
  if f.ascii && 0x80 ≤ c.toNat then .literal [c] else ofSet (f.fold (.single c))

/-- What `.` stands for. -/
def dot? (f : Flags) : Option CharSet :=
  let ends := if f.dotAll then [] else if f.returns then ['\n', '\r'] else ['\n']
  f.admit? (CharSet.ofList ends).compl

/-- A class that has an escape of its own. -/
def class? (f : Flags) (negated : Bool) (s : CharSet) : Option CharSet :=
  let s := if f.ascii then s.inter .ascii else s
  f.admit? (if negated then s.compl else s)

end Flags

/-! ### Escapes -/

/-- What a backslash introduces. -/
inductive Escape
  | char (c : Char)
  | set (s : CharSet)
  | assertion (a : Assertion)

/-- The character that hexadecimal digits denote, if there is one. -/
def hexChar? (digits : List Char) : Option Char := do
  let n ← Text.hexNumber? digits
  if n.isValidChar then return Char.ofNat n else none

/-- So many characters, with what counts for nothing dropped after each. -/
def takeSigns? (f : Flags) : Nat → List Char → Option (List Char × List Char)
  | 0, cs => some ([], cs)
  | _ + 1, [] => none
  | n + 1, c :: cs => (takeSigns? f n (f.skip cs)).map fun (ds, cs) => (c :: ds, cs)

/-- The characters up to a closing brace, with what counts for nothing dropped. -/
def takeBraced? (f : Flags) : Nat → List Char → Option (List Char × List Char)
  | 0, _ => none
  | _, [] => none
  | rounds + 1, c :: cs =>
    if c = '\x7d' then some ([], f.skip cs)
    else (takeBraced? f rounds (f.skip cs)).map fun (ds, cs) => (c :: ds, cs)

/-- A character by its number: so many hexadecimal digits, or any number of them in braces.  Two
digits must not stand for a byte beyond the first 128 where sets may not. -/
def readHex? (f : Flags) (digits : Nat) (cs : List Char) : Option (Escape × List Char) := do
  match f.skip cs with
  | '\x7b' :: cs =>
    let (inside, cs) ← takeBraced? f (cs.length + 1) (f.skip cs)
    return (.char (← hexChar? inside), cs)
  | cs =>
    let (inside, cs) ← takeSigns? f digits cs
    let c ← hexChar? inside
    if digits = 2 ∧ f.ascii ∧ 0x80 ≤ c.toNat then none else return (.char c, cs)

/-- The assertion about word characters that a name in braces stands for. -/
def namedEdge? (name : String) : Option WordEdge :=
  match name with
  | "start" => some .start
  | "end" => some .finish
  | "start-half" => some .notAfter
  | "end-half" => some .notBefore
  | _ => none

/-- A word boundary, or what a name in braces asks for; braces that do not start with a letter or a
minus sign belong to a repetition. -/
def readBoundary? (f : Flags) (cs : List Char) : Option (Escape × List Char) :=
  let isNameChar (c : Char) : Bool := c.isAlpha || c = '-'
  let inside := f.skip (cs.drop 1)
  if cs.head? != some '\x7b' then some (.assertion (.word .boundary f.ascii), cs)
  else if inside.isEmpty then none
  else if !inside.head?.any isNameChar then some (.assertion (.word .boundary f.ascii), cs)
  else do
    let (name, _) ← takeBraced? f (inside.length + 1) inside
    let (_, rest) ← Text.cutAt? (· = '\x7d') inside
    let edge ← namedEdge? (String.ofList name)
    return (.assertion (.word edge f.ascii), rest)

/-- The characters that may stand behind a backslash for themselves. -/
def isPunctuation (c : Char) : Bool := c.toNat < 0x80 && !c.isAlphanum && c != '<' && c != '>'

/-- What stands after a backslash. -/
def readEscape? (f : Flags) : List Char → Option (Escape × List Char)
  | [] => none
  | c :: cs =>
    let char (c : Char) : Option (Escape × List Char) := some (.char c, cs)
    let set (negated : Bool) (s : CharSet) : Option (Escape × List Char) :=
      (f.class? negated s).map (.set ·, cs)
    let assertion (a : Assertion) : Option (Escape × List Char) := some (.assertion a, cs)
    match c with
    | 'd' => set false .digit
    | 'D' => set true .digit
    | 'w' => set false .word
    | 'W' => set true .word
    | 's' => set false .blank
    | 'S' => set true .blank
    | 'a' => char (Char.ofNat 7)
    | 'f' => char (Char.ofNat 12)
    | 'n' => char '\n'
    | 'r' => char '\r'
    | 't' => char '\t'
    | 'v' => char (Char.ofNat 11)
    | 'x' => readHex? f 2 cs
    | 'u' => readHex? f 4 cs
    | 'U' => readHex? f 8 cs
    | 'A' => assertion .textStart
    | 'z' => assertion .textEnd
    | 'b' => readBoundary? f cs
    | 'B' => assertion (.word .inside f.ascii)
    | '<' => assertion (.word .start f.ascii)
    | '>' => assertion (.word .finish f.ascii)
    | c => if isPunctuation c then char c else none

/-! ### Bracketed sets -/

/-- How two sets in one pair of brackets are combined. -/
inductive SetOperator
  | inter
  | diff
  | symmDiff

/-- The combination of two sets. -/
def SetOperator.apply (op : SetOperator) (s t : CharSet) : CharSet :=
  match op with
  | .inter => s.inter t
  | .diff => s.diff t
  | .symmDiff => s.symmDiff t

/-- An operator at the front of a text. -/
def readOperator? : List Char → Option (SetOperator × List Char)
  | '&' :: '&' :: cs => some (.inter, cs)
  | '-' :: '-' :: cs => some (.diff, cs)
  | '~' :: '~' :: cs => some (.symmDiff, cs)
  | _ => none

/-- One end of a range, or a class. -/
def readSetItem? (f : Flags) : List Char → Option (Escape × List Char)
  | [] => none
  | '\\' :: cs => readEscape? f cs
  | c :: cs => some (.char c, cs)

/-- An item or a range of a set. -/
def readRange? (f : Flags) (cs : List Char) : Option (CharSet × List Char) := do
  let (item, cs) ← readSetItem? f cs
  let cs := f.skip cs
  let isRange := match cs with
    | '-' :: cs => !(f.skip cs).head?.any fun c => c = ']' || c = '-'
    | _ => false
  if isRange then
    let (last, cs) ← readSetItem? f (f.skip (cs.drop 1))
    match item, last with
    | .char a, .char b => if a ≤ b then return (← f.admit? (.range a b), cs) else none
    | _, _ => none
  else if cs.isEmpty then none
  else
    match item with
    | .char c => return (← f.admit? (.single c), cs)
    | .set s => return (s, cs)
    | .assertion _ => none

/-- A named class in brackets of its own, with `^` for its complement. -/
def readNamed? (f : Flags) : List Char → Option (Option CharSet × List Char)
  | '[' :: ':' :: cs => do
    let (inside, rest) ← Text.cutAt? (· = ']') cs
    let name ← Text.before? [':'] inside
    let (negated, name) := match name with
      | '^' :: name => (true, name)
      | name => (false, name)
    let s ← CharSet.named? (String.ofList name)
    return (f.fold? negated s, rest)
  | _ => none

/-- A set that is being read: what stands before its last operator, the items after that, the last
one first, and whether it is a complement. -/
structure SetFrame where
  left : Option (Nested CharSet × SetOperator)
  items : List (Nested CharSet)
  negated : Bool

namespace SetFrame

/-- Adds an item. -/
def push (s : SetFrame) (item : Nested CharSet) : SetFrame := { s with items := item :: s.items }

/-- The set so far. -/
def set (f : Flags) (s : SetFrame) : Nested CharSet :=
  let items := Nested.gather (fun sets => .ofRanges (sets.flatMap (·.ranges))) s.items.reverse
  match s.left with
  | none => items
  | some (left, op) => Nested.around₂ (fun a b => op.apply (f.fold a) (f.fold b)) left items

/-- Takes the set so far as what stands before an operator. -/
def operate (f : Flags) (s : SetFrame) (op : SetOperator) : SetFrame :=
  { s with left := some (s.set f, op), items := [] }

/-- The whole set. -/
def close? (f : Flags) (s : SetFrame) : Option (Nested CharSet) :=
  let whole := s.set f
  (f.fold? s.negated whole.value).map (⟨·, whole.levels + 1⟩)

end SetFrame

/-- The minus signs that stand for themselves at the front. -/
def takeHyphens (f : Flags) : Nat → List Char → List (Nested CharSet) × List Char
  | rounds + 1, '-' :: cs =>
    let (hyphens, cs) := takeHyphens f rounds (f.skip cs)
    (.flat (.single '-') :: hyphens, cs)
  | _, cs => ([], cs)

/-- The front of a set after its opening bracket: the sign of a complement, and then minus signs or
a closing bracket that stand for themselves. -/
def readSetHead (f : Flags) (cs : List Char) : SetFrame × List Char :=
  let cs := f.skip cs
  let negated := cs.head? == some '^'
  let cs := if negated then f.skip (cs.drop 1) else cs
  match takeHyphens f cs.length cs with
  | ([], ']' :: cs) => (⟨none, [.flat (.single ']')], negated⟩, f.skip cs)
  | (hyphens, cs) => (⟨none, hyphens, negated⟩, cs)

/-- Reads a set up to its closing bracket; `outer` holds the sets that it is nested in. -/
def readSet? (f : Flags) : Nat → List SetFrame → SetFrame → List Char →
    Option (Nested CharSet × List Char)
  | 0, _, _, _ => none
  | rounds + 1, outer, s, cs =>
    let cs := f.skip cs
    match readNamed? f cs, readOperator? cs, cs with
    | some (named, cs), _, _ => do readSet? f rounds outer (s.push (.flat (← named))) cs
    | none, some (op, cs), _ => readSet? f rounds outer (s.operate f op) cs
    | none, none, '[' :: cs =>
      let (inner, cs) := readSetHead f cs
      readSet? f rounds (s :: outer) inner cs
    | none, none, ']' :: cs => do
      let whole ← s.close? f
      match outer with
      | [] => return (whole, cs)
      | s :: outer => readSet? f rounds outer (s.push whole) cs
    | none, none, cs => do
      let (item, cs) ← readRange? f cs
      readSet? f rounds outer (s.push (.flat item)) cs

end ApiContract.Pattern
