import ApiContract.Yaml.Cursor

/-! # Texts in YAML

A text is written plain, in single or double quotes, or as a block of lines.  Plain and quoted texts
are folded: a single line break counts as a space, and of several the first is dropped.  A block is
kept as it is (`|`) or folded (`>`). -/

namespace ApiContract.Yaml

/-- What a run of blanks and line breaks inside a folded text stands for.  Only line feeds are
folded. -/
def foldGap (gap : List Char) : List Char :=
  match gap.filter isBreak with
  | [] => gap
  | b :: breaks => if b = '\n' then (if breaks.isEmpty then [' '] else breaks) else b :: breaks

/-! ### Plain texts -/

/-- The characters that end a plain text inside brackets. -/
def isFlowMark (c : Char) : Bool := c ∈ [',', '[', ']', '\x7b', '\x7d']

/-- Whether a plain text can start here. -/
def startsPlain (inFlow : Bool) : List Char → Bool
  | [] => false
  | c :: cs =>
    if c = '-' then !separates cs
    else if c = '?' || c = ':' then !inFlow && !separates cs
    else !isSeparation c && !isIndicator c

/-- The characters of a plain text up to a separation or an indicator; in brackets, none of the
marks may follow a colon. -/
def plainRun? (inFlow : Bool) : List Char → Option (List Char)
  | [] => some []
  | c :: cs =>
    if isSeparation c || (c = ':' && separates cs) || (inFlow && isFlowMark c) then some []
    else if inFlow && c = ':' && cs.head?.any (fun d => isFlowMark d || d = '?') then none
    else (plainRun? inFlow cs).map (c :: ·)

/-- Whether a tab stands before column `indent` of one of the lines that start in a gap. -/
def tabAbuse (indent : Nat) : Option Nat → List Char → Bool
  | _, [] => false
  | column, c :: cs =>
    if isBreak c then tabAbuse indent (some 0) cs
    else (c = '\t' && column.any (· < indent)) || tabAbuse indent (column.map (· + 1)) cs

/-- What follows the first run of a plain text, and whether the line ends before what follows the
text.  The text ends where the line is indented by less than `indent` columns, at a comment, at a
line between documents and where no run follows. -/
def plainTail (inFlow : Bool) (indent : Nat) : Nat → Scan (List Char × Bool)
  | 0 => Scan.fail
  | rounds + 1 => do
    let gap ← Scan.run isSeparation
    Scan.expect (!tabAbuse indent none gap)
    let c ← get
    if (!inFlow && c.column < indent) || c.atBoundary || c.peek? == some '#' then
      return ([], gap.any isBreak)
    else
      let run ← plainRun? inFlow c.rest
      if run.isEmpty then return ([], gap.any isBreak)
      else
        Scan.advance run.length
        let (rest, lineEnds) ← plainTail inFlow indent rounds
        return (foldGap gap ++ run ++ rest, lineEnds)

/-- A plain text, and whether the line ends before what follows it. -/
def plainText (inFlow : Bool) (indent : Nat) : Scan (String × Bool) := do
  let run ← plainRun? inFlow (← get).rest
  Scan.expect (startsPlain inFlow (← get).rest)
  Scan.advance run.length
  let (rest, lineEnds) ← Scan.rounds (plainTail inFlow indent)
  return (String.ofList (run ++ rest), lineEnds)

/-! ### Quoted texts -/

/-- The character that a letter after a backslash stands for, if it is one of a fixed set. -/
def unescape? (letter : Char) : Option Char :=
  let codes := escapeLetters ++ [(0x20, ' '), (0x2F, '/'), (0xA0, '_'), (0x09, '\t')]
  (codes.find? (·.2 == letter)).map (Char.ofNat ·.1)

/-- How many hexadecimal digits a letter after a backslash announces. -/
def escapeWidth? (letter : Char) : Option Nat := [('x', 2), ('u', 4), ('U', 8)].lookup letter

/-- The character that a backslash and what follows stand for. -/
def escape : Scan Char := do
  Scan.char '\\'
  let letter ← (← get).peek?
  Scan.advance 1
  match escapeWidth? letter with
  | none => unescape? letter
  | some width =>
    let digits := (← get).rest.take width
    Scan.expect (digits.length == width)
    let n ← Text.hexNumber? digits
    Scan.expect (decide n.isValidChar)
    Scan.advance width
    return Char.ofNat n

/-- A quoted text after its opening quote.  In single quotes a quote is doubled; in double quotes a
backslash escapes, a line break too. -/
def quotedRest (quote : Char) : Nat → Scan (List Char)
  | 0 => Scan.fail
  | rounds + 1 => do
    let c ← get
    Scan.expect (!c.atBoundary)
    match c.rest with
    | [] => Scan.fail
    | x :: cs =>
      if isSeparation x then
        let gap ← Scan.run isSeparation
        return foldGap gap ++ (← quotedRest quote rounds)
      else if x = quote then
        Scan.advance 1
        if quote = '\'' && cs.head? == some '\'' then
          Scan.advance 1
          return '\'' :: (← quotedRest quote rounds)
        else return []
      else if quote = '"' && x = '\\' then
        if cs.head?.any isBreak then
          Scan.advance 2
          let gap ← Scan.run isSeparation
          return gap.filter isBreak ++ (← quotedRest quote rounds)
        else
          let y ← escape
          return y :: (← quotedRest quote rounds)
      else
        Scan.advance 1
        return x :: (← quotedRest quote rounds)

/-- A text between two quotes. -/
def quotedText (quote : Char) : Scan String := do
  Scan.char quote
  return String.ofList (← Scan.rounds (quotedRest quote))

/-! ### Blocks -/

/-- What becomes of the line breaks at the end of a block. -/
inductive Chomping
  /-- All are dropped. -/
  | strip
  /-- The first is kept. -/
  | clip
  /-- All are kept. -/
  | keep
  deriving DecidableEq, Repr

/-- How a block's head asks for its end. -/
def chompMark : Scan (Option Chomping) := do
  match (← get).peek? with
  | some '-' => Scan.advance 1; return some .strip
  | some '+' => Scan.advance 1; return some .keep
  | _ => return none

/-- The indentation that a block's head asks for: a digit from 1 to 9. -/
def blockIndent : Scan (Option Nat) := do
  match (← get).peek? with
  | some d =>
    if d.isDigit then
      Scan.expect (d != '0')
      Scan.advance 1
      return some (d.toNat - '0'.toNat)
    else return none
  | none => return none

/-- The head of a block: indentation and end in either order, and the end of the line. -/
def blockHead : Scan (Option Nat × Chomping) := do
  let before ← chompMark
  let indent ← blockIndent
  let after ← if before.isNone then chompMark else pure none
  let _ ← Scan.run fun c => c = ' ' || c = '\t'
  if (← get).peek? == some '#' then
    let _ ← Scan.run fun c => !isBreak c
  Scan.expect ((← get).peek?.all isBreak)
  modify Cursor.next
  return (indent, (before.or after).getD .clip)

/-- The breaks of blank lines up to a line that is not blank, and the largest column that is
reached; no more than `limit` spaces of a line are taken, and a tab must not stand among them. -/
def blankLines (limit : Option Nat) : Nat → Scan (List Char × Nat)
  | 0 => Scan.fail
  | rounds + 1 => do
    let c ← get
    let found := (c.rest.takeWhile (· = ' ')).length
    let c := c.skip (limit.elim found fun n => min found (n - c.column))
    set c
    Scan.expect (!(c.peek? == some '\t' && limit.all (c.column < ·)))
    match c.peek? with
    | some b =>
      if isBreak b then
        modify Cursor.next
        let (breaks, widest) ← blankLines limit rounds
        return (b :: breaks, max c.column widest)
      else return ([], c.column)
    | none => return ([], c.column)

/-- What has been read of a block before one of its lines: the break that ended the last line, those
of the blank lines since, and whether the last line began with a blank. -/
structure BlockState where
  lineBreak : List Char
  breaks : List Char
  afterBlank : Bool

/-- The breaks before a line of a block: between two lines that begin with no blank, a line feed is
folded where `folded` says so. -/
def BlockState.separator (s : BlockState) (folded blank : Bool) : List Char :=
  if folded && s.lineBreak == ['\n'] && !s.afterBlank && !blank then
    (if s.breaks.isEmpty then [' '] else s.breaks)
  else s.lineBreak ++ s.breaks

/-- The lines of a block. -/
def blockLines (folded : Bool) (indent : Nat) (chomp : Chomping) :
    Nat → BlockState → Scan (List Char)
  | 0, _ => Scan.fail
  | rounds + 1, s => do
    let c ← get
    if c.column == indent && !c.atEnd then
      let blank := c.peek?.any fun x => x = ' ' || x = '\t'
      let line ← Scan.run fun x => !isBreak x
      let lineBreak := (← get).peek?.toList
      modify Cursor.next
      let (breaks, _) ← Scan.rounds (blankLines (some indent))
      let more ← blockLines folded indent chomp rounds ⟨lineBreak, breaks, blank⟩
      return s.separator folded blank ++ line ++ more
    else
      let last := if chomp = .strip then [] else s.lineBreak
      return last ++ (if chomp = .keep then s.breaks else [])

/-- A block after its mark, inside a collection whose entries stand at column `parent`. -/
def blockText (folded : Bool) (parent : Nat) : Scan String := do
  let (given, chomp) ← blockHead
  let limit := given.map (parent + ·)
  let (breaks, widest) ← Scan.rounds (blankLines limit)
  let indent := limit.getD (max widest (parent + 1))
  return String.ofList (← Scan.rounds fun n => blockLines folded indent chomp n ⟨[], breaks, false⟩)

end ApiContract.Yaml
