import ApiContract.Yaml.Property
import ApiContract.Yaml.Text

/-! # YAML tokens

A text is cut into tokens from left to right.  A key may stand before its colon with no mark of its
own, so that where it starts is known only at the colon: a `Lexer` remembers the place where a key
may have started, and puts the token of the key in there when the colon comes.  Such a key stands on
one line with its colon and at most 1024 characters before it.

Outside brackets the indentation opens and closes blocks.  What starts in the column of the
innermost block must be a key there, and it is an error if no colon comes.

The main definition is `Token.scan?`, the tokens of a whole text. -/

namespace ApiContract.Yaml

/-! ### Tokens -/

/-- How a scalar is presented. -/
inductive Presentation
  | plain
  | quoted
  | literal
  | folded
  deriving DecidableEq, Repr

/-- What a text is cut into. -/
inductive Token
  | directive (d : Directive)
  | documentStart
  | documentEnd
  /-- The start of a sequence or a mapping that is set off by its indentation. -/
  | blockSequence
  | blockMapping
  | blockEnd
  /-- The brackets of a sequence and the braces of a mapping. -/
  | openSequence
  | closeSequence
  | openMapping
  | closeMapping
  /-- A dash, a comma, and what stands before a key and before a value. -/
  | item
  | comma
  | key
  | value
  | anchor (name : String)
  | alias (name : String)
  | tag (form : TagForm)
  | scalar (presentation : Presentation) (text : String)
  deriving DecidableEq, Repr

/-! ### The state -/

/-- A place where a key may have started. -/
structure KeyPlace where
  place : Cursor
  /-- How many tokens are before it. -/
  before : Nat
  /-- Whether a colon must come. -/
  required : Bool
  deriving Repr

namespace KeyPlace

/-- Whether a colon at a given place comes too late. -/
def isPast (k : KeyPlace) (c : Cursor) : Bool :=
  k.place.line < c.line || k.place.offset + 1024 < c.offset

end KeyPlace

/-- What has been read so far. -/
structure Lexer where
  cursor : Cursor
  /-- The tokens, the last one first. -/
  tokens : List Token
  /-- The columns of the open blocks, the innermost first. -/
  blocks : List Nat
  /-- Whether a key may start here. -/
  keyAllowed : Bool
  /-- The place where a key may have started, within the innermost brackets. -/
  key : Option KeyPlace
  /-- The same for what is around each of the open brackets. -/
  outer : List (Option KeyPlace)
  deriving Repr

/-- A change of the state that may fail. -/
abbrev Lex := StateT Lexer Option

namespace Lexer

/-- The state at the start of a text. -/
def start (cs : List Char) : Lexer := ⟨.start cs, [], [], true, none, []⟩

/-- Whether brackets are open. -/
def inFlow (l : Lexer) : Bool := !l.outer.isEmpty

/-- The least column of what belongs to the innermost block. -/
def indent (l : Lexer) : Nat := l.blocks.head?.elim 0 (· + 1)

/-- Adds a token. -/
def emit (t : Token) (l : Lexer) : Lexer := { l with tokens := t :: l.tokens }

/-- Adds tokens, the last one first, where `n` tokens are before them. -/
def emitAfter (n : Nat) (ts : List Token) (l : Lexer) : Lexer :=
  let since := l.tokens.length - n
  { l with tokens := l.tokens.take since ++ ts ++ l.tokens.drop since }

/-- Whether a block has to be opened for what stands in a given column. -/
def opensBlock (l : Lexer) (column : Nat) : Bool := !l.inFlow && l.indent ≤ column

/-- Opens a block for what comes next, unless it belongs to the innermost one. -/
def openBlock (t : Token) (l : Lexer) : Lexer :=
  let column := l.cursor.column
  if l.opensBlock column then { l.emit t with blocks := column :: l.blocks } else l

/-- Closes the blocks whose columns satisfy `p`, from the innermost one on. -/
def closeBlocks (p : Nat → Bool) (l : Lexer) : Lexer :=
  if l.inFlow then l
  else
    let closed := l.blocks.takeWhile p
    { l with tokens := closed.map (fun _ => .blockEnd) ++ l.tokens, blocks := l.blocks.dropWhile p }

end Lexer

namespace Lex

/-- Reads a part of the text. -/
def read {α : Type} (s : Scan α) : Lex α := fun l =>
  (s l.cursor).map fun (a, c) => (a, { l with cursor := c })

/-- Allows or forbids a key at the place that is reached. -/
def allowKey (allowed : Bool) : Lex Unit := modify fun l => { l with keyAllowed := allowed }

/-- Gives up the place where a key may have started; fails where a colon must come. -/
def dropKey : Lex Unit := do
  if (← get).key.any (·.required) then failure
  modify fun l => { l with key := none }

/-- Remembers the place that is reached if a key may start there. -/
def markKey : Lex Unit := do
  if (← get).keyAllowed then
    dropKey
    modify fun l =>
      let required := !l.inFlow && l.blocks.head? == some l.cursor.column
      { l with key := some ⟨l.cursor, l.tokens.length, required⟩ }

/-- Gives up the places for which a colon would come too late. -/
def dropPastKeys : Lex Unit := do
  let l ← get
  let isPast (k : Option KeyPlace) : Bool := k.any (·.isPast l.cursor)
  if (l.key :: l.outer).any fun k => isPast k && k.any (·.required) then failure
  let keep (k : Option KeyPlace) : Option KeyPlace := if isPast k then none else k
  set { l with key := keep l.key, outer := l.outer.map keep }

/-! ### Reading a token -/

/-- Moves to the next token, and closes the blocks that it does not belong to. -/
def seek : Lex Unit := do
  modify fun l =>
    let (c, allowed) := l.cursor.seek l.inFlow (l.cursor.rest.length + 1) l.keyAllowed
    { l with cursor := c, keyAllowed := allowed }
  dropPastKeys
  modify fun l => l.closeBlocks (l.cursor.column < ·)

/-- Takes `n` characters as a token. -/
def take (n : Nat) (t : Token) : Lex Unit := do
  read (Scan.advance n)
  modify (·.emit t)

/-- Ends all blocks, and with them what may have been a key. -/
def endBlocks : Lex Unit := do
  modify (·.closeBlocks fun _ => true)
  dropKey
  allowKey false

/-- Reads a directive. -/
def directive : Lex Unit := do
  endBlocks
  let d ← read Yaml.directive
  modify (·.emit (.directive d))

/-- Takes the line between two documents. -/
def boundary (t : Token) : Lex Unit := do
  endBlocks
  take 3 t

/-- Takes an opening bracket, with which a key may start. -/
def openFlow (t : Token) : Lex Unit := do
  markKey
  modify fun l => { l with key := none, outer := l.key :: l.outer }
  allowKey true
  take 1 t

/-- Takes a closing bracket. -/
def closeFlow (t : Token) : Lex Unit := do
  dropKey
  modify fun l => { l with key := l.outer.head?.getD l.key, outer := l.outer.drop 1 }
  allowKey false
  take 1 t

/-- Takes a comma. -/
def comma : Lex Unit := do
  dropKey
  allowKey true
  take 1 .comma

/-- Takes a dash, or the question mark of a key. -/
def entryMark (block mark : Token) (allowed : Bool) : Lex Unit := do
  let l ← get
  if !l.inFlow && !l.keyAllowed then failure
  modify (·.openBlock block)
  dropKey
  allowKey allowed
  take 1 mark

/-- Takes a colon: after a key it puts in the tokens before that key, and no further key may follow
on the same line. -/
def colon : Lex Unit := do
  let l ← get
  match l.key with
  | some k =>
    let column := k.place.column
    let l' := l.emitAfter k.before (if l.opensBlock column then [.key, .blockMapping] else [.key])
    let blocks := if l.opensBlock column then column :: l.blocks else l.blocks
    set { l' with blocks := blocks, key := none }
    allowKey false
  | none =>
    if !l.inFlow && !l.keyAllowed then failure
    modify (·.openBlock .blockMapping)
    allowKey !l.inFlow
  take 1 .value

/-- Reads what may be a key, or stand before one. -/
def keyPart (s : Scan Token) : Lex Unit := do
  markKey
  allowKey false
  let t ← read s
  modify (·.emit t)

/-- Reads a block of text. -/
def block (presentation : Presentation) : Lex Unit := do
  dropKey
  allowKey true
  let l ← get
  let text ← read do
    Scan.advance 1
    blockText (presentation == .folded) (l.blocks.head?.getD 0)
  modify (·.emit (.scalar presentation text))

/-- Reads a plain text.  A key may start after it if it ends with its line. -/
def plain : Lex Unit := do
  markKey
  allowKey false
  let l ← get
  let (text, lineEnds) ← read (plainText l.inFlow l.indent)
  if lineEnds then allowKey true
  modify (·.emit (.scalar .plain text))

/-- Reads the token that starts at the place that is reached. -/
def token : Lex Unit := do
  let l ← get
  let c := l.cursor
  if c.column == 0 && c.peek? == some '%' then directive
  else if c.atLineOf '-' then boundary .documentStart
  else if c.atLineOf '.' then boundary .documentEnd
  else
    let isMark (x : Char) : Bool := c.peek? == some x && (l.inFlow || separates (c.rest.drop 1))
    if c.atMark '-' then entryMark .blockSequence .item true
    else if isMark '?' then entryMark .blockMapping .key !l.inFlow
    else if isMark ':' then colon
    else
      match c.peek? with
      | some '[' => openFlow .openSequence
      | some ']' => closeFlow .closeSequence
      | some '\x7b' => openFlow .openMapping
      | some '\x7d' => closeFlow .closeMapping
      | some ',' => comma
      | some '*' => keyPart (return .alias (← anchorName))
      | some '&' => keyPart (return .anchor (← anchorName))
      | some '!' => keyPart (return .tag (← Yaml.tag l.inFlow))
      | some '\'' => keyPart (return .scalar .quoted (← quotedText '\''))
      | some '"' => keyPart (return .scalar .quoted (← quotedText '"'))
      | some '|' => if l.inFlow then failure else block .literal
      | some '>' => if l.inFlow then failure else block .folded
      | _ => plain

/-- Reads all tokens. -/
def tokens : Nat → Lex Unit
  | 0 => failure
  | rounds + 1 => do
    seek
    if (← get).cursor.atEnd then endBlocks
    else
      token
      tokens rounds

end Lex

/-- The tokens of a text. -/
def Token.scan? (text : String) : Option (List Token) := do
  let cs ← readable? text
  let (_, l) ← (Lex.tokens (cs.length + 1)).run (.start cs)
  return l.tokens.reverse

end ApiContract.Yaml
