import ApiContract.Json.Basic
import ApiContract.Yaml.Character
import ApiContract.Yaml.Scalar

/-! # YAML text of a value

Mappings and sequences are written in block style, one entry to a line; empty ones in brackets.  The
entries of a mapping are indented by two columns, those of a sequence stand under the key that holds
it.  Lines are never folded.

A text is written plain where that is possible, as a literal block if it has line feeds, in single
quotes if it would be taken for something else, and in double quotes where nothing else can hold
it.  A key of more than 128 bytes or of several lines stands after a question mark. -/

namespace ApiContract.Yaml

/-! ### What a text holds -/

/-- Whether two neighbours satisfy `p` and `q`. -/
def hasPair (p q : Char → Bool) : List Char → Bool
  | a :: b :: cs => (p a && q b) || hasPair p q (b :: cs)
  | _ => false

/-- Whether a plain scalar with this start would be taken for something else. -/
def startsIndicator : List Char → Bool
  | [] => false
  | c :: cs => isIndicator c || ((c = '?' || c = ':' || c = '-') && separates cs)

/-- Whether a colon before, or a number sign after, a separation ends a plain scalar. -/
def holdsIndicator : List Char → Bool
  | a :: b :: cs =>
    (b = ':' && separates cs) || (isSeparation a && b = '#') || holdsIndicator (b :: cs)
  | _ => false

/-- Whether a text starts like the line between two documents. -/
def startsDocument (cs : List Char) : Bool :=
  cs.take 3 == ['-', '-', '-'] || cs.take 3 == ['.', '.', '.']

/-- How a scalar is written. -/
inductive ScalarStyle
  | plain
  | singleQuoted
  | doubleQuoted
  | literal
  deriving DecidableEq, Repr

/-- Whether only double quotes can hold a text: it has a character that must be escaped, or a line
that ends in a space. -/
def needsEscapes (cs : List Char) : Bool :=
  cs.any (fun c => !isPrintable c) || hasPair isSpace isBreak cs

/-- Whether quotes can be left out. -/
def plainAllowed (cs : List Char) : Bool :=
  let atEnd (c : Option Char) := c.any fun c => isSpace c || isBreak c
  !(cs.isEmpty || atEnd cs.head? || atEnd cs.getLast? || cs.any isBreak || needsEscapes cs ||
    startsIndicator cs || holdsIndicator cs || startsDocument cs)

/-- The style of a text. -/
def styleOf (text : String) : ScalarStyle :=
  let cs := text.toList
  if '\n' ∈ cs then
    if cs.getLast?.any isSpace || needsEscapes cs then .doubleQuoted else .literal
  else if !looksTyped text && plainAllowed cs then .plain
  else if needsEscapes cs || hasPair isBreak isSpace cs then .doubleQuoted
  else .singleQuoted

/-! ### Writing scalars -/

/-- `n` spaces. -/
def spaces (n : Nat) : List Char := List.replicate n ' '

/-- A number in so many upper-case hexadecimal digits. -/
def hexDigits : Nat → Nat → List Char
  | 0, _ => []
  | width + 1, n => hexDigits width (n / 16) ++ [(Nat.digitChar (n % 16)).toUpper]

/-- A character in double quotes. -/
def escaped (c : Char) : List Char :=
  let n := c.toNat
  match escapeLetters.lookup n with
  | some letter => ['\\', letter]
  | none =>
    if isPrintable c then [c]
    else if n ≤ 0xFF then '\\' :: 'x' :: hexDigits 2 n
    else if n ≤ 0xFFFF then '\\' :: 'u' :: hexDigits 4 n
    else '\\' :: 'U' :: hexDigits 8 n

/-- The characters in single quotes: a quote is doubled, and the line after a break is indented. -/
def singleQuotedChars (indent : Nat) : Bool → List Char → List Char
  | afterBreak, [] => if afterBreak then spaces indent else []
  | afterBreak, c :: cs =>
    if isBreak c then c :: singleQuotedChars indent true cs
    else (if afterBreak then spaces indent else []) ++ (if c = '\'' then ['\''] else []) ++
      c :: singleQuotedChars indent false cs

/-- The lines of a literal block, indented where they are not empty. -/
def literalChars (indent : Nat) : Bool → List Char → List Char
  | _, [] => []
  | atStart, c :: cs =>
    if isBreak c then c :: literalChars indent true cs
    else (if atStart then spaces indent else []) ++ c :: literalChars indent false cs

/-- How a literal block ends: `-` with no line break, `+` with more than one. -/
def chomping (cs : List Char) : List Char :=
  match cs.reverse with
  | [] => ['-']
  | last :: before =>
    if !isBreak last then ['-']
    else if before.head?.all isBreak then ['+']
    else []

/-- The head of a literal block; the indentation is given if it cannot be seen. -/
def literalHead (cs : List Char) : List Char :=
  '|' :: (if cs.head?.any fun c => isSpace c || isBreak c then ['2'] else []) ++ chomping cs

/-- A text with the end of its line. -/
def textLine (indent : Nat) (text : String) : List Char :=
  let cs := text.toList
  match styleOf text with
  | .plain => cs ++ ['\n']
  | .singleQuoted => '\'' :: singleQuotedChars indent false cs ++ ['\'', '\n']
  | .doubleQuoted => '"' :: cs.flatMap escaped ++ ['"', '\n']
  | .literal =>
    literalHead cs ++ '\n' :: literalChars indent true cs ++
      if cs.getLast?.any isBreak then [] else ['\n']

/-- Whether a key can stand before its colon. -/
def isSimpleKey (key : String) : Bool := key.utf8ByteSize ≤ 128 && !key.toList.any isBreak

/-- Drops the end of a line. -/
def withoutBreak (line : List Char) : List Char := line.dropLast

/-! ### Writing values -/

/-- A value with no entries, with the end of its line. -/
def flat (indent : Nat) : Json → List Char
  | .null => "null\n".toList
  | .bool b => (toString b).toList ++ ['\n']
  | .num (.int n _) => (toString n).toList ++ ['\n']
  | .num (.float x) => (DecimalLayout.yaml.write x).toList ++ ['\n']
  | .str s => textLine indent s
  | .arr _ => "[]\n".toList
  | .obj _ => [Char.ofNat 0x7B, Char.ofNat 0x7D, '\n']

mutual

/-- A value after a key of a mapping with the given indentation, with the end of its line. -/
def afterKey (indent : Nat) : Json → List Char
  | .obj (m :: members) => '\n' :: mapping (indent + 2) (m :: members)
  | .arr (item :: items) => '\n' :: sequence indent (item :: items)
  | v => ' ' :: flat (indent + 2) v
termination_by structural v => v

/-- A value after the mark of an entry of a collection with the given indentation. -/
def afterMark (indent : Nat) : Json → List Char
  | .obj (m :: members) => ' ' :: (mapping (indent + 2) (m :: members)).drop (indent + 2)
  | .arr (item :: items) => ' ' :: (sequence (indent + 2) (item :: items)).drop (indent + 2)
  | v => ' ' :: flat (indent + 2) v
termination_by structural v => v

/-- The lines of a sequence. -/
def sequence (indent : Nat) : List Json → List Char
  | [] => []
  | item :: items => spaces indent ++ '-' :: afterMark indent item ++ sequence indent items
termination_by structural items => items

/-- The lines of a mapping. -/
def mapping (indent : Nat) : List (String × Json) → List Char
  | [] => []
  | m :: members => entry indent m ++ mapping indent members
termination_by structural members => members

/-- The lines of an entry of a mapping. -/
def entry (indent : Nat) : String × Json → List Char
  | (key, value) =>
    spaces indent ++
      if isSimpleKey key then
        withoutBreak (textLine (indent + 2) key) ++ ':' :: afterKey indent value
      else
        '?' :: ' ' :: textLine (indent + 2) key ++ spaces indent ++ ':' :: afterMark indent value
termination_by structural m => m

end

/-- The text of a document. -/
def print : Json → String
  | .obj (m :: members) => String.ofList (mapping 0 (m :: members))
  | .arr (item :: items) => String.ofList (sequence 0 (item :: items))
  | v => String.ofList (flat 2 v)

end ApiContract.Yaml
