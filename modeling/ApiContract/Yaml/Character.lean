/-! # YAML characters

The classes of characters that reading and printing share. -/

namespace ApiContract.Yaml

/-- The characters that break lines. -/
def isBreak (c : Char) : Bool :=
  c = '\n' || c = '\r' || c.toNat == 0x85 || c.toNat == 0x2028 || c.toNat == 0x2029

/-- The characters that may stand for themselves in double quotes. -/
def isPrintable (c : Char) : Bool :=
  let n := c.toNat
  n == 0x0A || (0x20 ≤ n && n ≤ 0x7E) || (0xA0 ≤ n && n ≤ 0xFFFD && n != 0xFEFF) || 0x10000 ≤ n

/-- A space. -/
def isSpace (c : Char) : Bool := c = ' '

/-- A space, a tab or a line break. -/
def isSeparation (c : Char) : Bool := c = ' ' || c = '\t' || isBreak c

/-- Whether nothing, or a character that separates, comes next. -/
def separates (next : List Char) : Bool := next.head?.all fun c => isSeparation c || c.toNat == 0

/-- The characters that cannot start a plain scalar. -/
def isIndicator (c : Char) : Bool := c ∈ "#,[]&*!|>'\"%@".toList || c.toNat ∈ [0x60, 0x7B, 0x7D]

/-- The letters that escape a character in double quotes. -/
def escapeLetters : List (Nat × Char) :=
  [(0x00, '0'), (0x07, 'a'), (0x08, 'b'), (0x09, 't'), (0x0A, 'n'), (0x0B, 'v'), (0x0C, 'f'),
    (0x0D, 'r'), (0x1B, 'e'), (0x22, '"'), (0x5C, '\\'), (0x85, 'N'), (0x2028, 'L'),
    (0x2029, 'P')]

end ApiContract.Yaml
