import ApiContract.Pattern.CharSet

/-! # Patterns

A pattern describes texts: characters in sequence, alternatives, repetitions, and assertions, which
take no character but ask for what stands on their two sides.

Patterns are kept in a simplified form.  `Pattern.concat` joins neighbouring literals,
`Pattern.alternation` makes one set of alternatives that are single characters or sets and moves
what all alternatives start with to their front, and `Pattern.times` bounds the repetition of what
takes no character by one. -/

namespace ApiContract

/-! ### Assertions -/

/-- The place between two characters, either of which is missing at an end of the text. -/
structure Gap where
  before : Option Char
  after : Option Char

/-- What is asked of the word characters around a gap. -/
inductive WordEdge
  /-- One on exactly one side. -/
  | boundary
  /-- One on both sides or on neither. -/
  | inside
  /-- One after the gap, and none before it. -/
  | start
  /-- One before the gap, and none after it. -/
  | finish
  /-- None before the gap. -/
  | notAfter
  /-- None after the gap. -/
  | notBefore
  deriving DecidableEq, Repr

/-- What an assertion asks of a gap.  Lines end with a line feed, or with `returns` with a carriage
return too; `ascii` leaves only the word characters among the first 128 characters. -/
inductive Assertion
  | textStart
  | textEnd
  | lineStart (returns : Bool)
  | lineEnd (returns : Bool)
  | word (edge : WordEdge) (ascii : Bool)
  deriving DecidableEq, Repr

namespace Assertion

/-- Whether a gap is as asked. -/
def holds (a : Assertion) (gap : Gap) : Bool :=
  match a with
  | .textStart => gap.before.isNone
  | .textEnd => gap.after.isNone
  | .lineStart returns =>
    gap.before.all fun c => c = '\n' || (returns && c = '\r' && gap.after != some '\n')
  | .lineEnd false => gap.after.all (· = '\n')
  | .lineEnd true => gap.after.all fun c => c = '\r' || (c = '\n' && gap.before != some '\r')
  | .word edge ascii =>
    let isWord (c : Char) : Bool := Text.isWord c && (!ascii || c.toNat < 0x80)
    let left := gap.before.any isWord
    let right := gap.after.any isWord
    match edge with
    | .boundary => left != right
    | .inside => left == right
    | .start => !left && right
    | .finish => left && !right
    | .notAfter => !left
    | .notBefore => !right

end Assertion

/-! ### Patterns -/

/-- A description of texts. -/
inductive Pattern
  /-- The empty text. -/
  | empty
  /-- These characters. -/
  | literal (cs : List Char)
  /-- One character of a set. -/
  | set (s : CharSet)
  /-- The empty text, at certain gaps only. -/
  | assertion (a : Assertion)
  /-- At least `least` texts, and at most `most` if there is a bound. -/
  | repeated (p : Pattern) (least : Nat) (most : Option Nat)
  /-- The text of a group whose place is kept. -/
  | group (p : Pattern)
  /-- One text after the other. -/
  | seq (p q : Pattern)
  /-- Either text. -/
  | alt (p q : Pattern)
  deriving DecidableEq, Repr

namespace Pattern

/-- The length of the shortest texts; `none` where no text may match. -/
def minLength? : Pattern → Option Nat
  | .empty | .assertion _ => some 0
  | .literal cs => some cs.length
  | .set s => if s.ranges.isEmpty then none else some 1
  | .repeated p least _ => p.minLength?.map (least * ·)
  | .group p => p.minLength?
  | .seq p q => do return (← p.minLength?) + (← q.minLength?)
  | .alt p q => do return min (← p.minLength?) (← q.minLength?)

/-- Whether no text has a character. -/
def takesNothing : Pattern → Bool
  | .empty | .assertion _ => true
  | .literal _ | .set _ => false
  | .repeated p _ most => most.isSome && p.takesNothing
  | .group p => p.takesNothing
  | .seq p q => p.takesNothing && q.takesNothing
  | .alt p q => p.takesNothing && q.takesNothing

/-- Whether a group occurs. -/
def hasGroup : Pattern → Bool
  | .empty | .literal _ | .set _ | .assertion _ => false
  | .repeated p _ _ => p.hasGroup
  | .group _ => true
  | .seq p q | .alt p q => p.hasGroup || q.hasGroup

/-! ### Simplified forms -/

/-- One character of a set; a set of one is a literal. -/
def ofSet (s : CharSet) : Pattern :=
  match s.single? with
  | some c => .literal [c]
  | none => .set s

/-- A repetition.  What takes no character is repeated once at most. -/
def times (p : Pattern) (least : Nat) (most : Option Nat) : Pattern :=
  let least := if p.takesNothing then min least 1 else least
  let most := if p.takesNothing then some (most.elim 1 (min · 1)) else most
  if least = 0 ∧ most = some 0 then .empty
  else if least = 1 ∧ most = some 1 then p
  else .repeated p least most

/-- What follows one after the other in a pattern. -/
def parts : Pattern → List Pattern
  | .empty => []
  | .seq p q => p.parts ++ q.parts
  | p => [p]

/-- Joins literals that are neighbours. -/
def joinLiterals : List Pattern → List Pattern
  | [] => []
  | p :: ps =>
    match p, joinLiterals ps with
    | .literal cs, .literal ds :: rest => .literal (cs ++ ds) :: rest
    | p, rest => p :: rest

/-- The parts one after the other. -/
def ofParts : List Pattern → Pattern
  | [] => .empty
  | [p] => p
  | p :: ps => .seq p (ofParts ps)

/-- One pattern after the other. -/
def concat (ps : List Pattern) : Pattern := ofParts (joinLiterals (ps.flatMap parts))

/-- The alternatives of a pattern. -/
def choices : Pattern → List Pattern
  | .alt p q => p.choices ++ q.choices
  | p => [p]

/-- The given alternatives. -/
def ofChoices : List Pattern → Pattern
  | [] => .set .none
  | [p] => p
  | p :: ps => .alt p (ofChoices ps)

/-- The character of a literal that has a single one. -/
def single? : Pattern → Option Char
  | .literal [c] => some c
  | _ => none

/-- The set that a pattern consists of. -/
def set? : Pattern → Option CharSet
  | .set s => some s
  | _ => none

/-- The parts that two sequences start with; groups are never shared. -/
def commonParts : List Pattern → List Pattern → List Pattern
  | p :: ps, q :: qs => if p = q ∧ !p.hasGroup then p :: commonParts ps qs else []
  | _, _ => []

/-- The parts that all alternatives start with, if each of them has several parts. -/
def sharedParts (ps : List Pattern) : List Pattern :=
  match ps.map parts with
  | [] => []
  | first :: rest =>
    if (first :: rest).all (2 ≤ ·.length) then rest.foldl commonParts first else []

/-- Any of the patterns; what they all start with is taken out as often as `rounds` allows. -/
def alternationWithin : Nat → List Pattern → Pattern
  | 0, ps => ofChoices ps
  | rounds + 1, ps =>
    match ps.flatMap choices with
    | [p] => p
    | ps =>
      match ps.mapM single?, ps.mapM set? with
      | some cs, _ => ofSet (.ofList cs)
      | none, some sets => ofSet (.ofRanges (sets.flatMap (·.ranges)))
      | none, none =>
        let shared := sharedParts ps
        if shared.isEmpty then ofChoices ps
        else
          let rests := ps.map fun p => concat (p.parts.drop shared.length)
          concat (shared ++ [alternationWithin rounds rests])

/-- The numbers of a list taken together. -/
def total (ns : List Nat) : Nat := ns.foldr Nat.add 0

/-- How many parts a pattern has, its alternatives taken together. -/
def partCount : Pattern → Nat
  | .seq p q | .alt p q => p.partCount + q.partCount
  | _ => 1

/-- Any of the patterns. -/
def alternation (ps : List Pattern) : Pattern :=
  alternationWithin (total (ps.map partCount) + 1) ps

end Pattern
end ApiContract
