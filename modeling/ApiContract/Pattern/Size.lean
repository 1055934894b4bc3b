import ApiContract.Pattern.Basic
import ApiContract.Text.ByteRange
import ApiContract.Text.Utf8

/-! # The size of a pattern

A pattern is searched for with two automata over the bytes of a text, one that reads forwards and
one that reads backwards, and it is refused when one of them takes more than 10 MiB.  This module
counts what they take without building them.

A state takes 32 bytes.  A state that tells several ranges of bytes apart takes 8 bytes more for
each of them, and a fork takes 4 bytes more for each of its branches.  What is repeated is built
again for each repetition that its bounds ask for. -/

namespace ApiContract.Pattern

/-- In which direction an automaton reads. -/
inductive Direction
  | forwards
  | backwards
  deriving DecidableEq, Repr

/-- A part of an automaton: the bytes that it takes, and whether its last state is a fork, to which
what follows is one more branch. -/
structure Fragment where
  bytes : Nat
  endsInFork : Bool
  deriving DecidableEq, Repr

namespace Fragment

/-- The bytes of a state. -/
def state : Nat := 32

/-- The bytes of a branch of a fork. -/
def branch : Nat := 4

/-- The bytes of a range of a state. -/
def range : Nat := 8

/-- What it takes to go on from the last state. -/
def link (f : Fragment) : Nat := if f.endsInFork then branch else 0

/-- A single state that is no fork. -/
def one : Fragment := ⟨state, false⟩

/-- One fragment, and `g` after it. -/
def append (f g : Fragment) : Fragment := ⟨f.bytes + f.link + g.bytes, g.endsInFork⟩

/-- A fragment `n` times. -/
def power (f : Fragment) : Nat → Fragment
  | 0 => one
  | n + 1 => ⟨(n + 1) * f.bytes + n * f.link, f.endsInFork⟩

/-- A fragment at least `n` times.  With `n = 0`, what can be empty is taken as an option of one or
more. -/
def atLeast (f : Fragment) (canBeEmpty : Bool) : Nat → Fragment
  | 0 =>
    if canBeEmpty then ⟨f.bytes + f.link + 3 * state + 4 * branch, false⟩
    else ⟨f.bytes + f.link + state + branch, true⟩
  | 1 => ⟨f.bytes + f.link + state + branch, true⟩
  | n + 2 => (f.power (n + 1)).append ⟨f.bytes + f.link + state + branch, true⟩

/-- A fragment `least` times, and then up to `more` times. -/
def bounded (f : Fragment) (least more : Nat) : Fragment :=
  if least = 0 ∧ more = 1 then ⟨f.bytes + f.link + 2 * state + 2 * branch, false⟩
  else if more = 0 then f.power least
  else
    let start := f.power least
    ⟨start.bytes + start.link + state + more * (f.bytes + f.link + state + 2 * branch), false⟩

end Fragment

/-! ### Sets -/

/-- How many elements two lists share at their front. -/
def sharedLength {α : Type} [DecidableEq α] : List α → List α → Nat
  | a :: as, b :: bs => if a = b then sharedLength as bs + 1 else 0
  | _, _ => 0

/-- How many different ways there are to begin one of the products, which are in order. -/
def beginnings : List Utf8.Product → Nat
  | [] => 0
  | [p] => p.length
  | p :: q :: ps => (p.length - sharedLength p q) + beginnings (q :: ps)

/-- Cuts a list of products where the first range changes, and drops that range. -/
def tails : List Utf8.Product → List (List Utf8.Product)
  | [] => []
  | [] :: ps => tails ps
  | (r :: p) :: ps =>
    match ps, tails ps with
    | (r' :: _) :: _, same :: others =>
      if r = r' then (p :: same) :: others else [p] :: same :: others
    | _, others => [p] :: others

/-- What may be left of the products after some of their ranges, each given once for every way to
get there. -/
def remainders : Nat → List Utf8.Product → List (List Utf8.Product)
  | 0, _ => []
  | rounds + 1, ps =>
    if ps.all List.isEmpty then [] else ps :: (tails ps).flatMap (remainders rounds)

/-- The states for a set.  A set of ASCII characters has one state for all its ranges.  Otherwise,
forwards, states from which the same is left to read are shared; backwards there is a branch for
each product, and products that begin alike share the states of their beginning. -/
def setFragment (dir : Direction) (s : CharSet) : Fragment :=
  if s.isAscii then ⟨2 * Fragment.state + s.ranges.length * Fragment.range, false⟩
  else
    let products := s.ranges.flatMap fun (first, last) => Utf8.products first last
    match dir with
    | .backwards =>
      ⟨(2 + beginnings products) * Fragment.state + products.length * Fragment.branch, false⟩
    | .forwards =>
      let states := (remainders 5 products).eraseDups
      ⟨(1 + states.length) * Fragment.state +
        total (states.map fun ps => (tails ps).length * Fragment.range), false⟩

/-! ### Alternatives that are literals -/

/-- Cuts a list of words at the empty ones. -/
def cutAtEmpty : List (List UInt8) → List (List (List UInt8))
  | [] => [[]]
  | [] :: ws => [] :: cutAtEmpty ws
  | w :: ws =>
    match cutAtEmpty ws with
    | [] => [[w]]
    | first :: others => (w :: first) :: others

/-- The bytes of the states that tell words apart, which are given in order of preference.  A word
that ends before others begin cuts them into groups; each group has a state for the bytes that its
words begin with, and a fork leads to all groups and to the end of each word. -/
def wordBytes : Nat → List (List UInt8) → Nat
  | 0, _ => 0
  | rounds + 1, ws =>
    if ws.all List.isEmpty then 0
    else
      let ended := (ws.filter List.isEmpty).length - ((ws.takeWhile List.isEmpty).length - 1)
      let groups := (cutAtEmpty ws).filter fun words => !words.isEmpty
      let groupBytes (words : List (List UInt8)) : Nat :=
        let firsts := (words.filterMap List.head?).eraseDups
        let after (b : UInt8) : List (List UInt8) :=
          (words.filter fun w => w.head? == some b).map (List.drop 1)
        Fragment.state + (if firsts.length = 1 then 0 else firsts.length * Fragment.range) +
          total (firsts.map fun b => wordBytes rounds (after b))
      Fragment.state + (groups.length + ended) * Fragment.branch + total (groups.map groupBytes)

/-- The literals that a pattern offers, if it offers nothing else. -/
def words? : Pattern → Option (List (List UInt8))
  | .literal cs => some [Utf8.encode cs]
  | .alt p q => do return (← p.words?) ++ (← q.words?)
  | _ => none

/-- The states for literals. -/
def wordsFragment (dir : Direction) (ws : List (List UInt8)) : Fragment :=
  let ws := match dir with
    | .forwards => ws
    | .backwards => ws.map List.reverse
  ⟨Fragment.state + wordBytes (total (ws.map List.length) + 1) ws, false⟩

/-! ### Whole patterns -/

/-- The fragment of a pattern from those of its alternatives. -/
def ofBranches (dir : Direction) (p : Pattern) : List Fragment → Fragment
  | [f] => f
  | fs =>
    match p.words? with
    | some ws => wordsFragment dir ws
    | none =>
      ⟨2 * Fragment.state + total (fs.map fun f => f.bytes + f.link + Fragment.branch), false⟩

/-- The fragments of the alternatives of a pattern.  Only forwards a group has states of its own. -/
def branches (dir : Direction) : Pattern → List Fragment
  | .empty | .assertion _ => [.one]
  | .literal cs => [⟨(Utf8.encode cs).length * Fragment.state, false⟩]
  | .set s => [setFragment dir s]
  | .repeated p least most =>
    let f := ofBranches dir p (p.branches dir)
    match most with
    | none => [f.atLeast (!p.minLength?.any (0 < ·)) least]
    | some most => [f.bounded least (most - least)]
  | .group p =>
    let f := ofBranches dir p (p.branches dir)
    match dir with
    | .forwards => [⟨2 * Fragment.state + f.bytes + f.link, false⟩]
    | .backwards => [f]
  | .seq p q =>
    let f := ofBranches dir p (p.branches dir)
    let g := ofBranches dir q (q.branches dir)
    match dir with
    | .forwards => [f.append g]
    | .backwards => [g.append f]
  | .alt p q => p.branches dir ++ q.branches dir

/-- Whether a match must begin at the start of the text, or, read backwards, at its end. -/
def isAnchored (dir : Direction) : Pattern → Bool
  | .empty | .literal _ | .set _ => false
  | .assertion a =>
    match dir with
    | .forwards => a == .textStart
    | .backwards => a == .textEnd
  | .repeated p least _ => 0 < least && p.isAnchored dir
  | .group p => p.isAnchored dir
  | .seq p q =>
    match dir with
    | .forwards => p.isAnchored dir || (p.takesNothing && q.isAnchored dir)
    | .backwards => q.isAnchored dir || (q.takesNothing && p.isAnchored dir)
  | .alt p q => p.isAnchored dir && q.isAnchored dir

/-- The bytes of an automaton.  Unless it is anchored it first skips any bytes; forwards it keeps
the place of the match, and its last state says that there is one. -/
def size (dir : Direction) (p : Pattern) : Nat :=
  let f := ofBranches dir p (p.branches dir)
  let skipping := if p.isAnchored dir then Fragment.state
    else 3 * Fragment.state + Fragment.range + 2 * Fragment.branch
  let kept := match dir with
    | .forwards => 2 * Fragment.state
    | .backwards => 0
  skipping + kept + f.bytes + f.link + Fragment.state

/-- The most that an automaton may take. -/
def sizeLimit : Nat := 10 <<< 20

/-- Whether both automata are small enough. -/
def isSmall (p : Pattern) : Bool := p.size .forwards ≤ sizeLimit && p.size .backwards ≤ sizeLimit

end ApiContract.Pattern
