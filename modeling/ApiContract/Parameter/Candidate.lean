import ApiContract.Descriptor
import ApiContract.Json.Reader
import ApiContract.SetupError

/-! # Raw values and candidates

A raw value is what the wire holds for a parameter: one text, or several.  Its candidate is the
untyped value that is then read at the parameter's type.  A list type splits a single text as the
style says; a type of objects takes a text that is the JSON text of an object; everything else stays a
text. -/

namespace ApiContract

/-- How lists and objects are written on the wire. -/
inductive Style
  | matrix
  | label
  | form
  | simple
  | spaceDelimited
  | pipeDelimited
  | deepObject
  deriving DecidableEq, Repr

namespace Style

/-- The name of a style. -/
def name : Style → String
  | .matrix => "matrix"
  | .label => "label"
  | .form => "form"
  | .simple => "simple"
  | .spaceDelimited => "spaceDelimited"
  | .pipeDelimited => "pipeDelimited"
  | .deepObject => "deepObject"

/-- The style with a given name. -/
def ofName? (name : String) : Option Style :=
  [matrix, label, form, simple, spaceDelimited, pipeDelimited, deepObject].find? (·.name == name)

/-- What separates the items of a list. -/
def delimiter : Style → Char
  | .spaceDelimited => ' '
  | .pipeDelimited => '|'
  | .label => '.'
  | _ => ','

/-- The text of a list without what the style writes in front: a dot for labels, a semicolon, the
name and an equals sign for matrices. -/
def listBody (style : Style) (text : List Char) : List Char :=
  match style, text with
  | .label, '.' :: rest => rest
  | .matrix, ';' :: rest => ((Text.cutAt? (· = '=') rest).map Prod.snd).getD (';' :: rest)
  | _, text => text

end Style

/-- The style of a location where none is declared. -/
def Location.defaultStyle : Location → Style
  | .path | .header => .simple
  | .query | .cookie => .form

/-- What the wire holds for a parameter. -/
inductive RawValue
  | single (text : String)
  | many (texts : List String)
  deriving DecidableEq, Repr

/-- The items of a list: its pieces without blanks around them, of which the empty ones do not
count. -/
def splitItems (style : Style) (text : String) : List String :=
  let pieces := Text.splitBy (· = style.delimiter) (style.listBody text.toList)
  ((pieces.map Text.trim).filter fun piece => !piece.isEmpty).map String.ofList

/-- The list of some texts. -/
def textList (texts : List String) : Json := .arr (texts.map .str)

/-- The candidate of one text for a type that is not a list type. -/
def scalarCandidate (text : String) (ty : Descriptor) : Json :=
  if ty.wantsObject then
    match Json.parse? text with
    | some (.obj members) => .obj members
    | _ => .str text
  else .str text

/-- The untyped value of a raw one.  Of several texts for a type that is not a list type the last
counts. -/
def candidate (raw : RawValue) (ty : Descriptor) (style : Style) : Json :=
  match ty.collectionElement?, raw with
  | some _, .single text => textList (splitItems style text)
  | some _, .many [text] => textList (splitItems style text)
  | some _, .many texts => textList texts
  | none, .single text => scalarCandidate text ty
  | none, .many texts => (texts.getLast?.map (scalarCandidate · ty)).getD .null

end ApiContract
