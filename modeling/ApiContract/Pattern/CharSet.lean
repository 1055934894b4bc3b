import ApiContract.Text.CaseFold
import ApiContract.Text.Word

/-! # Sets of characters

What a pattern can ask of one character.  A set is a list of ranges of code points, in increasing
order and with gaps between them, so that equal sets are equal lists.  `CharSet.folded` adds what
differs from a member in case alone. -/

namespace ApiContract

/-- A set of characters. -/
structure CharSet where
  /-- The first and the last code point of each range. -/
  ranges : List (Nat × Nat)
  deriving DecidableEq, Repr

namespace CharSet

/-- Whether a code point belongs to a set. -/
def hasCode (s : CharSet) (n : Nat) : Bool := Text.inRanges s.ranges n

/-- Whether a character belongs to a set. -/
def contains (s : CharSet) (c : Char) : Bool := s.hasCode c.toNat

/-! ### Operations -/

/-- Extends the range `r` as long as the next one touches it; the others start no earlier. -/
def uniteFrom (r : Nat × Nat) : List (Nat × Nat) → List (Nat × Nat)
  | [] => [r]
  | t :: rest => if t.1 ≤ r.2 + 1 then uniteFrom (r.1, max r.2 t.2) rest else r :: uniteFrom t rest

/-- Unites the ranges that touch; they are given in the order in which they start. -/
def unite : List (Nat × Nat) → List (Nat × Nat)
  | [] => []
  | r :: rest => uniteFrom r rest

/-- The set that some ranges cover. -/
def ofRanges (ranges : List (Nat × Nat)) : CharSet :=
  ⟨unite (ranges.mergeSort fun r t => r.1 ≤ t.1)⟩

/-- The characters between two code points. -/
def between (first last : Nat) : List (Nat × Nat) :=
  let isSurrogate (n : Nat) : Bool := 0xD800 ≤ n && n < 0xE000
  let first := if isSurrogate first then 0xE000 else first
  let last := if isSurrogate last then 0xD7FF else last
  if first ≤ last then [(first, last)] else []

/-- The gaps between ranges, from the code point `start` on. -/
def gaps (start : Nat) : List (Nat × Nat) → List (Nat × Nat)
  | [] => between start 0x10FFFF
  | (first, last) :: rest =>
    (if start < first then between start (first - 1) else []) ++ gaps (last + 1) rest

/-- The characters that do not belong to a set. -/
def compl (s : CharSet) : CharSet := ⟨gaps 0 s.ranges⟩

/-- The characters of two sets. -/
def union (s t : CharSet) : CharSet := ofRanges (s.ranges ++ t.ranges)

/-- The characters that two sets share. -/
def inter (s t : CharSet) : CharSet := (s.compl.union t.compl).compl

/-- The characters of `s` that do not belong to `t`. -/
def diff (s t : CharSet) : CharSet := s.inter t.compl

/-- The characters that belong to one of two sets alone. -/
def symmDiff (s t : CharSet) : CharSet := (s.union t).diff (s.inter t)

/-- Adds what differs from a member in case alone: first the folded forms of the members, and then
all characters with these folded forms. -/
def folded (s : CharSet) : CharSet :=
  let add (s : CharSet) (codes : List Nat) : CharSet :=
    ofRanges (s.ranges ++ codes.map fun n => (n, n))
  let withFolded := add s ((Text.foldPairs.filter fun p => s.hasCode p.1).map (·.2))
  add withFolded ((Text.foldPairs.filter fun p => withFolded.hasCode p.2).map (·.1))

/-! ### Particular sets -/

/-- No character. -/
def none : CharSet := ⟨[]⟩

/-- All characters. -/
def all : CharSet := none.compl

/-- The characters from `first` to `last`. -/
def range (first last : Char) : CharSet := ⟨[(first.toNat, last.toNat)]⟩

/-- The set of one character. -/
def single (c : Char) : CharSet := .range c c

/-- The characters of a list. -/
def ofList (cs : List Char) : CharSet := ofRanges (cs.map fun c => (c.toNat, c.toNat))

/-- The character of a set that has a single one. -/
def single? (s : CharSet) : Option Char :=
  match s.ranges with
  | [(first, last)] => if first = last then some (Char.ofNat first) else Option.none
  | _ => Option.none

/-- The first 128 characters. -/
def ascii : CharSet := ⟨[(0, 0x7F)]⟩

/-- Whether all members are among the first 128 characters. -/
def isAscii (s : CharSet) : Bool := s.ranges.all (·.2 < 0x80)

/-- The decimal digits of all scripts. -/
def digit : CharSet := ⟨Text.decimalDigitRanges⟩

/-- The word characters of all scripts. -/
def word : CharSet := ⟨Text.wordRanges⟩

/-- The blanks of all scripts. -/
def blank : CharSet :=
  ⟨[(0x09, 0x0D), (0x20, 0x20), (0x85, 0x85), (0xA0, 0xA0), (0x1680, 0x1680), (0x2000, 0x200A),
    (0x2028, 0x2029), (0x202F, 0x202F), (0x205F, 0x205F), (0x3000, 0x3000)]⟩

/-- The named classes that brackets within brackets may hold. -/
def named? (name : String) : Option CharSet :=
  match name with
  | "alnum" => some ⟨[(0x30, 0x39), (0x41, 0x5A), (0x61, 0x7A)]⟩
  | "alpha" => some ⟨[(0x41, 0x5A), (0x61, 0x7A)]⟩
  | "ascii" => some ascii
  | "blank" => some ⟨[(0x09, 0x09), (0x20, 0x20)]⟩
  | "cntrl" => some ⟨[(0x00, 0x1F), (0x7F, 0x7F)]⟩
  | "digit" => some (range '0' '9')
  | "graph" => some (range '!' '~')
  | "lower" => some (range 'a' 'z')
  | "print" => some (range ' ' '~')
  | "punct" => some ⟨[(0x21, 0x2F), (0x3A, 0x40), (0x5B, 0x60), (0x7B, 0x7E)]⟩
  | "space" => some ⟨[(0x09, 0x0D), (0x20, 0x20)]⟩
  | "upper" => some (range 'A' 'Z')
  | "word" => some ⟨[(0x30, 0x39), (0x41, 0x5A), (0x5F, 0x5F), (0x61, 0x7A)]⟩
  | "xdigit" => some ⟨[(0x30, 0x39), (0x41, 0x46), (0x61, 0x66)]⟩
  | _ => Option.none

end CharSet
end ApiContract
