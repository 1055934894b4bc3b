import ApiContract.Pattern.Basic

/-! # Finding a pattern in a text

In a text of `n` characters there are `n + 1` places, before, between and after the characters.  A
set of places is a number whose bit `i` is set when the `i`-th place belongs to the set.

A pattern leads from places to places: from those where a match may start to those where it ends.
`Route.reach` follows a pattern from all places of a set at once.  A repetition is followed as long
as something new is reached and from new places only, so that its bounds do not matter for how long
that takes. -/

namespace ApiContract.Pattern

/-- What a pattern asks of the places of one text. -/
inductive Route
  /-- Stays at a place of the set. -/
  | stay (places : Nat)
  /-- Goes on to the next place, from a place of the set. -/
  | step (places : Nat)
  | seq (r s : Route)
  | alt (r s : Route)
  | repeated (r : Route) (least : Nat) (most : Option Nat)
  deriving Repr

/-- The set of the places with a property, given for all places in order. -/
def places {α : Type} (p : α → Bool) : List α → Nat
  | [] => 0
  | a :: as => 2 * places p as + (p a).toNat

/-- The gaps of a text that follows the character `before`. -/
def gaps (before : Option Char) : List Char → List Gap
  | [] => [⟨before, none⟩]
  | c :: cs => ⟨before, some c⟩ :: gaps (some c) cs

/-- What a pattern asks of the places of a text. -/
def route (cs : List Char) : Pattern → Route
  | .empty => .stay (places (fun _ => true) (gaps none cs))
  | .literal ds =>
    ds.foldr (fun d r => .seq (.step (places (· = d) cs)) r)
      (.stay (places (fun _ => true) (gaps none cs)))
  | .set s => .step (places s.contains cs)
  | .assertion a => .stay (places a.holds (gaps none cs))
  | .repeated p least most => .repeated (route cs p) least most
  | .group p => route cs p
  | .seq p q => .seq (route cs p) (route cs q)
  | .alt p q => .alt (route cs p) (route cs q)

/-- Applies `f` to a set `n` times, or fewer times when that changes nothing any more. -/
def iterate (f : Nat → Nat) : Nat → Nat → Nat
  | 0, s => s
  | n + 1, s => let t := f s; if t = s then s else iterate f n t

/-- The places that `f` has been followed from, and those that it has reached. -/
structure Spread where
  visited : Nat
  reached : Nat

/-- Follows `f` from the places of `fresh`, and then from those that are new, at most `n` times. -/
def spread (f : Nat → Nat) : Nat → Nat → Spread → Spread
  | 0, _, s => s
  | n + 1, fresh, s =>
    if fresh = 0 then s
    else
      let t := f fresh
      let new := t ^^^ (t &&& s.visited)
      spread f n new ⟨s.visited ||| new, s.reached ||| t⟩

namespace Route

/-- The places that are reached from the places of a set, in a text with `size` places.  Without an
upper bound the last of the least number of repetitions is the first of those that may go on. -/
def reach (size : Nat) : Route → Nat → Nat
  | .stay here => fun s => s &&& here
  | .step here => fun s => (s &&& here) <<< 1
  | .seq q r => fun s => r.reach size (q.reach size s)
  | .alt q r => fun s => q.reach size s ||| r.reach size s
  | .repeated r least (some most) => fun s =>
    let t := iterate (r.reach size) least s
    (spread (r.reach size) (most - least) t ⟨t, 0⟩).visited
  | .repeated r 0 none => fun s => (spread (r.reach size) size s ⟨s, 0⟩).visited
  | .repeated r (least + 1) none => fun s =>
    let t := iterate (r.reach size) least s
    (spread (r.reach size) size t ⟨t, 0⟩).reached

end Route

/-- Whether some part of a text is matched. -/
def foundIn (p : Pattern) (text : String) : Bool :=
  let cs := text.toList
  let size := cs.length + 1
  (p.route cs).reach size (places (fun _ => true) (gaps none cs)) != 0

end ApiContract.Pattern
