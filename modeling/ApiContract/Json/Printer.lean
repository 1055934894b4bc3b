import ApiContract.Json.Basic

/-! # Compact JSON text

`Json.compact` writes a value with no blanks.  In a text, quotes, backslashes and the characters
below U+0020 are escaped, the latter by a letter where JSON has one; all others stand for
themselves. -/

namespace ApiContract.Json

/-- The hexadecimal digit of a number below 16. -/
def hexDigit (n : Nat) : Char := (Nat.digitChar (n % 16))

/-- A character inside a text. -/
def escape (c : Char) : List Char :=
  if c = '"' then ['\\', '"']
  else if c = '\\' then ['\\', '\\']
  else if c.toNat = 8 then ['\\', 'b']
  else if c.toNat = 9 then ['\\', 't']
  else if c.toNat = 10 then ['\\', 'n']
  else if c.toNat = 12 then ['\\', 'f']
  else if c.toNat = 13 then ['\\', 'r']
  else if c.toNat < 32 then ['\\', 'u', '0', '0', hexDigit (c.toNat / 16), hexDigit c.toNat]
  else [c]

/-- A text with its quotes. -/
def quote (s : String) : List Char := '"' :: s.toList.flatMap escape ++ ['"']

mutual

/-- The characters of a value. -/
def chars : Json → List Char
  | .null => ['n', 'u', 'l', 'l']
  | .bool true => ['t', 'r', 'u', 'e']
  | .bool false => ['f', 'a', 'l', 's', 'e']
  | .num n => n.text.toList
  | .str s => quote s
  | .arr [] => ['[', ']']
  | .arr (item :: items) => '[' :: chars item ++ itemChars items
  | .obj [] => ['{', '}']
  | .obj ((key, value) :: members) => '{' :: quote key ++ ':' :: chars value ++ memberChars members

/-- Further items of a list, to its end. -/
def itemChars : List Json → List Char
  | [] => [']']
  | item :: items => ',' :: chars item ++ itemChars items

/-- Further members of an object, to its end. -/
def memberChars : List (String × Json) → List Char
  | [] => ['}']
  | (key, value) :: members => ',' :: quote key ++ ':' :: chars value ++ memberChars members

end

/-- The compact text of a value. -/
def compact (v : Json) : String := String.ofList v.chars

end ApiContract.Json
