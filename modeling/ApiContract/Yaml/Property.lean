import ApiContract.Text.Blank
import ApiContract.Text.Utf8
import ApiContract.Yaml.Cursor

/-! # Tags, anchors and directives

Before its content a node may have a tag, which names its type, and an anchor, under which an alias
finds it again.  The short form of a tag starts with a handle; directives before a document name the
version of YAML and define handles.

This module reads one of these at a time; what a handle stands for is settled later, when all
directives of the document are known. -/

namespace ApiContract.Yaml

/-- The characters of a name. -/
def isWordChar (c : Char) : Bool := c.isAlphanum || c = '_' || c = '-'

/-! ### Tags -/

/-- The name of a type, as octets. -/
abbrev Tag := List UInt8

/-- The characters of a tag; in brackets some more. -/
def isTagChar (bracketed : Bool) (c : Char) : Bool :=
  isWordChar c || c ∈ ";/?:@&=+$.!~*'()%".toList || (bracketed && c ∈ ",[]".toList)

/-- How many octets follow the first octet of a character; only the leading bits are looked at. -/
def followers? (lead : Nat) : Option Nat :=
  if lead < 0x80 then some 0
  else if lead < 0xC0 then none
  else if lead < 0xE0 then some 1
  else if lead < 0xF0 then some 2
  else if lead < 0xF8 then some 3
  else none

/-- Undoes the escapes of a tag.  `pending` octets are still due: an escaped character has all its
octets escaped, one right after the other. -/
def unescapeTag? : Nat → List Char → Option Tag
  | pending, '%' :: high :: low :: cs => do
    let octet ← Text.hexNumber? [high, low]
    let pending ← if pending = 0 then followers? octet
      else if 0x80 ≤ octet ∧ octet < 0xC0 then some (pending - 1) else none
    return UInt8.ofNat octet :: (← unescapeTag? pending cs)
  | 0, c :: cs => if c = '%' then none else (unescapeTag? 0 cs).map (Utf8.encode [c] ++ ·)
  | 0, [] => some []
  | _ + 1, _ => none

/-- The octets of a tag; what follows a zero octet counts for nothing. -/
def tagText (bracketed : Bool) : Scan Tag := do
  let cs ← Scan.run (isTagChar bracketed)
  return (← unescapeTag? 0 cs).takeWhile (· ≠ 0)

/-- What the handles of tags stand for, the latest definition first. -/
abbrev Handles := List (String × Tag)

/-- The handles that need no definition. -/
def standardHandles : Handles :=
  [("!", Utf8.encode ['!']), ("!!", Utf8.encode "tag:yaml.org,2002:".toList)]

/-- A tag as it is written. -/
inductive TagForm
  /-- In full. -/
  | full (tag : Tag)
  /-- A handle and the rest. -/
  | short (handle : String) (rest : Tag)
  deriving DecidableEq, Repr

/-- The tag that is meant; `none` if the handle stands for nothing. -/
def TagForm.resolve? (handles : Handles) : TagForm → Option Tag
  | .full tag => some tag
  | .short handle rest => (handles.lookup handle).map (· ++ rest)

/-- A handle: exclamation marks around a name, or one or two of them. -/
def handle : Scan String := do
  Scan.char '!'
  let name ← Scan.run isWordChar
  if (← get).peek? == some '!' then
    Scan.advance 1
    return String.ofList ('!' :: name ++ ['!'])
  else
    Scan.expect name.isEmpty
    return "!"

/-- A tag: in angle brackets, behind a handle that ends in an exclamation mark, or behind a single
exclamation mark. -/
def tagForm : Scan TagForm := do
  let c ← get
  if c.rest.take 2 == ['!', '<'] then
    Scan.advance 2
    Scan.expect ((← get).peek?.any (isTagChar true))
    let tag ← tagText true
    Scan.char '>'
    return .full tag
  else if ((c.rest.drop 1).dropWhile isWordChar).head? == some '!' then
    let handle ← handle
    Scan.expect ((← get).peek?.any (isTagChar false))
    return .short handle (← tagText false)
  else
    Scan.char '!'
    let rest ← tagText false
    return if rest.isEmpty then .full (Utf8.encode ['!']) else .short "!" rest

/-- A tag with what must follow it: a separation, or a comma in brackets. -/
def tag (inFlow : Bool) : Scan TagForm := do
  let form ← tagForm
  let c ← get
  Scan.expect (separates c.rest || (inFlow && c.peek? == some ','))
  return form

/-! ### Anchors -/

/-- A name after an ampersand or an asterisk. -/
def anchorName : Scan String := do
  Scan.advance 1
  let name ← Scan.run isWordChar
  let c ← get
  Scan.expect (!name.isEmpty)
  let ends (x : Char) : Bool := x ∈ "?:,]%@".toList || x.toNat ∈ [0x60, 0x7D]
  Scan.expect (separates c.rest || c.peek?.any ends)
  return String.ofList name

/-! ### Directives -/

/-- What a directive says. -/
inductive Directive
  /-- The version of YAML. -/
  | version (major minor : Nat)
  /-- What a handle stands for. -/
  | handle (name : String) (start : Tag)
  deriving DecidableEq, Repr

/-- Skips spaces and tabs. -/
def skipBlanks : Scan Unit := do
  let _ ← Scan.run fun c => c = ' ' || c = '\t'

/-- A number of at most nine digits. -/
def versionNumber : Scan Nat := do
  let digits ← Scan.run Char.isDigit
  Scan.expect (digits.length ≤ 9)
  let n ← Text.decimal? digits
  return n

/-- The rest of a directive after its name.  A tag must be separated from what follows it; a number
ends where its digits end. -/
def directiveValue (name : List Char) : Scan Directive := do
  skipBlanks
  if name == "YAML".toList then
    let major ← versionNumber
    Scan.char '.'
    return .version major (← versionNumber)
  else
    Scan.expect (name == "TAG".toList)
    let defined ← handle
    Scan.expect ((← get).peek?.any fun c => c = ' ' || c = '\t')
    skipBlanks
    Scan.expect ((← get).peek?.any (isTagChar true))
    let start ← tagText true
    Scan.expect (separates (← get).rest)
    return .handle defined start

/-- A directive up to the end of its line. -/
def directive : Scan Directive := do
  Scan.char '%'
  let name ← Scan.run isWordChar
  Scan.expect (separates (← get).rest)
  let d ← directiveValue name
  skipBlanks
  if (← get).peek? == some '#' then
    let _ ← Scan.run fun c => !isBreak c
  Scan.expect ((← get).peek?.all isBreak)
  modify Cursor.next
  return d

end ApiContract.Yaml
