import ApiContract.Text.Blank

/-! # Request targets

The target of a request is a path with a query, an absolute address, a bare authority or `*`.
`Target.query?` finds the query of a well-formed target; a fragment is dropped. -/

namespace ApiContract.Target

/-- The longest target, in bytes. -/
def maxLength : Nat := 65534

/-- The characters of a path. -/
def isPathChar (c : Char) : Bool :=
  let n := c.toNat
  n == 0x21 || (0x24 ≤ n && n ≤ 0x3B) || n == 0x3D || (0x40 ≤ n && n ≤ 0x5F) ||
    (0x61 ≤ n && n ≤ 0x7E) || 0x80 ≤ n || c = '"'

/-- The characters of a query. -/
def isQueryChar (c : Char) : Bool :=
  let n := c.toNat
  n == 0x21 || (0x24 ≤ n && n ≤ 0x3B) || n == 0x3D || (0x3F ≤ n && n != 0x7F)

/-- The characters of an authority; a percent sign is a matter of its own. -/
def isAuthorityChar (c : Char) : Bool := c.isAlphanum || c ∈ "!$&'()*+,-.:;=@[]_~".toList

/-- The characters that end an authority. -/
def endsAuthority (c : Char) : Bool := c = '/' || c = '?' || c = '#'

/-- The characters of a scheme. -/
def isSchemeChar (c : Char) : Bool := c.isAlphanum || c = '+' || c = '-' || c = '.' || c = '~'

/-- What an authority has shown so far. -/
structure Scan where
  /-- Colons since the last at-sign or closing bracket. -/
  colons : Nat
  opened : Bool
  closed : Bool
  /-- Whether there is a percent sign since the last at-sign or closing bracket. -/
  percent : Bool
  /-- Whether the last character is an at-sign. -/
  atSign : Bool

/-- Takes one more character of an authority. -/
def Scan.step? (s : Scan) (c : Char) : Option Scan :=
  let s := { s with atSign := c = '@' }
  match c with
  | ':' => if 8 ≤ s.colons then none else some { s with colons := s.colons + 1 }
  | '[' => if s.percent || s.opened then none else some { s with opened := true }
  | ']' =>
    if !s.opened || s.closed then none
    else some { s with closed := true, colons := 0, percent := false }
  | '@' => some { s with colons := 0, percent := false }
  | '%' => some { s with percent := true }
  | c => if isAuthorityChar c then some s else none

/-- Whether a text is an authority; the empty one counts. -/
def isAuthority (cs : List Char) : Bool :=
  match cs.foldlM Scan.step? ⟨0, false, false, false, false⟩ with
  | some s => s.opened == s.closed && s.colons ≤ 1 && !s.atSign && !s.percent
  | none => false

/-- The query of a path with a query, if it has one; `none` when the text is not of that form. -/
def pathQuery? (cs : List Char) : Option (Option String) :=
  let path := cs.takeWhile fun c => c != '?' && c != '#'
  if !path.all isPathChar then none
  else match cs.drop path.length with
    | '?' :: rest =>
      let query := rest.takeWhile (· != '#')
      if query.all isQueryChar then some (some (String.ofList query)) else none
    | _ => some none

/-- What follows the scheme and `://`, if the text starts with those; `none` within for a scheme of
more than 64 characters. -/
def afterScheme? (cs : List Char) : Option (Option (List Char)) :=
  let scheme := cs.takeWhile isSchemeChar
  match cs.drop scheme.length with
  | ':' :: '/' :: '/' :: rest => some (if 64 < scheme.length then none else some rest)
  | _ => none

/-- The query of a target with an authority. -/
def absoluteQuery? (cs : List Char) : Option (Option String) :=
  match afterScheme? cs with
  | none => if isAuthority cs then some none else none
  | some none => none
  | some (some rest) =>
    let authority := rest.takeWhile fun c => !endsAuthority c
    if authority.isEmpty || !isAuthority authority then none
    else pathQuery? (rest.drop authority.length)

/-- The query of a target, if it has one; `none` when the text is no target. -/
def query? (target : String) : Option (Option String) :=
  let cs := target.toList
  if maxLength < target.utf8ByteSize then none
  else match cs with
    | [] => none
    | ['*'] => some none
    | '/' :: _ => pathQuery? cs
    | cs => absoluteQuery? cs

end ApiContract.Target
