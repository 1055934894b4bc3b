import ApiContract.Yaml.Token

/-! # Flat YAML documents

A flat document is a scalar or a mapping of scalars, in block or flow style.  `Flat.parse?` reads a
text that holds one flat document; it fails for a text that is no YAML, for one with several
documents, for one with a sequence and for one with a mapping inside a mapping.

A document is read from the tokens of its text; each function returns the tokens that it leaves. -/

namespace ApiContract.Yaml

/-! ### Documents -/

/-- A scalar. -/
structure Scalar where
  presentation : Presentation
  tag : Option Tag
  text : String
  deriving DecidableEq, Repr

/-- A scalar in its place: it may have an anchor, or be an alias of an earlier one. -/
inductive Node
  | scalar (anchor : Option String) (value : Scalar)
  | alias (anchor : String)
  deriving DecidableEq, Repr

/-- A document with scalars only, or with one mapping of scalars, which may have an anchor. -/
inductive Flat (α : Type)
  | scalar (value : α)
  | mapping (anchor : Option String) (entries : List (α × α))
  deriving DecidableEq, Repr

/-- The empty plain scalar. -/
def Node.empty : Node := .scalar none ⟨.plain, none, ""⟩

/-! ### Nodes -/

/-- What stands before the content of a node. -/
structure Properties where
  anchor : Option String
  tag : Option TagForm
  deriving DecidableEq, Repr

namespace Properties

/-- None. -/
def none : Properties := ⟨.none, .none⟩

/-- Whether there are none. -/
def isEmpty (p : Properties) : Bool := p.anchor.isNone && p.tag.isNone

/-- The properties at the front: an anchor and a tag in either order. -/
def take : List Token → Properties × List Token
  | .anchor a :: .tag t :: ts => (⟨some a, some t⟩, ts)
  | .tag t :: .anchor a :: ts => (⟨some a, some t⟩, ts)
  | .anchor a :: ts => (⟨some a, .none⟩, ts)
  | .tag t :: ts => (⟨.none, some t⟩, ts)
  | ts => (none, ts)

/-- The tag that the properties name. -/
def tag? (handles : Handles) (p : Properties) : Option (Option Tag) :=
  p.tag.mapM (·.resolve? handles)

end Properties

/-- A scalar or an alias.  Properties alone stand for an empty scalar. -/
def Node.read? (handles : Handles) (ts : List Token) : Option (Node × List Token) := do
  let (p, rest) := Properties.take ts
  let tag ← p.tag? handles
  match rest with
  | .alias name :: rest => if p.isEmpty then return (.alias name, rest) else none
  | .scalar presentation text :: rest => return (.scalar p.anchor ⟨presentation, tag, text⟩, rest)
  | .openSequence :: _ | .openMapping :: _ | .blockSequence :: _ | .blockMapping :: _ => none
  | _ => if p.isEmpty then none else return (.scalar p.anchor ⟨.plain, tag, ""⟩, rest)

/-- A scalar or an alias, or none where one of the `closing` tokens comes next. -/
def Node.readOrEmpty? (handles : Handles) (closing : List Token) (ts : List Token) :
    Option (Node × List Token) :=
  if ts.head?.any (· ∈ closing) then some (.empty, ts) else Node.read? handles ts

/-- The value of an entry, which may be missing. -/
def Node.readValue? (handles : Handles) (closing : List Token) :
    List Token → Option (Node × List Token)
  | .value :: ts => Node.readOrEmpty? handles closing ts
  | ts => some (.empty, ts)

/-! ### Mappings -/

/-- The entries of a block up to its end. -/
def blockEntries? (handles : Handles) : Nat → List Token → Option (List (Node × Node) × List Token)
  | rounds + 1, .key :: ts => do
    let closing := [.key, .value, .blockEnd]
    let (key, ts) ← Node.readOrEmpty? handles closing ts
    let (value, ts) ← Node.readValue? handles closing ts
    let (entries, ts) ← blockEntries? handles rounds ts
    return ((key, value) :: entries, ts)
  | _, .blockEnd :: ts => some ([], ts)
  | _, _ => none

/-- An entry in braces; without the mark of a key it has no value. -/
def flowEntry? (handles : Handles) : List Token → Option ((Node × Node) × List Token)
  | .key :: ts => do
    let (key, ts) ← Node.readOrEmpty? handles [.value, .comma, .closeMapping] ts
    let (value, ts) ← Node.readValue? handles [.comma, .closeMapping] ts
    return ((key, value), ts)
  | ts => do
    let (key, ts) ← Node.read? handles ts
    return ((key, .empty), ts)

/-- The entries in braces up to the closing one; a comma may stand after the last entry. -/
def flowEntries? (handles : Handles) : Nat → List Token → Option (List (Node × Node) × List Token)
  | _, .closeMapping :: ts => some ([], ts)
  | 0, _ => none
  | rounds + 1, ts => do
    let (entry, ts) ← flowEntry? handles ts
    match ts with
    | .comma :: ts =>
      let (entries, ts) ← flowEntries? handles rounds ts
      return (entry :: entries, ts)
    | .closeMapping :: ts => return ([entry], ts)
    | _ => none

/-! ### The whole text -/

/-- The directives at the front. -/
def takeDirectives : List Token → List Directive × List Token
  | .directive d :: ts => let (ds, ts) := takeDirectives ts; (d :: ds, ts)
  | ts => ([], ts)

/-- What the handles of a document stand for.  A version is named at most once and must be 1.1 or
1.2; no handle is defined twice. -/
def handlesOf? (directives : List Directive) : Option Handles :=
  let versions := directives.filterMap fun d =>
    match d with
    | .version major minor => some (major, minor)
    | .handle _ _ => none
  let defined := directives.filterMap fun d =>
    match d with
    | .version _ _ => none
    | .handle name start => some (name, start)
  if versions.length ≤ 1 ∧ versions.all (· ∈ [(1, 1), (1, 2)]) ∧ (defined.map (·.1)).Nodup then
    some (defined ++ standardHandles)
  else none

/-- Whether no content stands between the start of a document and these tokens. -/
def isVacant : List Token → Bool
  | [] | .directive _ :: _ | .documentStart :: _ | .documentEnd :: _ => true
  | _ => false

/-- The content of a document. -/
def content? (handles : Handles) (ts : List Token) : Option (Flat Node × List Token) :=
  let (p, rest) := Properties.take ts
  match rest with
  | .blockMapping :: rest => do
    let _ ← p.tag? handles
    let (entries, rest) ← blockEntries? handles rest.length rest
    return (.mapping p.anchor entries, rest)
  | .openMapping :: rest => do
    let _ ← p.tag? handles
    let (entries, rest) ← flowEntries? handles rest.length rest
    return (.mapping p.anchor entries, rest)
  | _ => (Node.read? handles ts).map fun (node, rest) => (.scalar node, rest)

/-- The document that the tokens of a text make up.  Lines that end a document may follow it, and
nothing else. -/
def document? (ts : List Token) : Option (Flat Node) := do
  let (directives, ts) := takeDirectives ts
  let handles ← handlesOf? directives
  let (doc, rest) ← match ts with
    | .documentStart :: ts => if isVacant ts then some (.scalar .empty, ts) else content? handles ts
    | ts =>
      if !directives.isEmpty then none
      else if ts.isEmpty then some (.scalar .empty, ts)
      else content? handles ts
  if rest.all (· == .documentEnd) then return doc else none

/-! ### Aliases -/

/-- What the anchors so far stand for.  An anchor has the number of names that were known before it;
an anchor that reuses a name brings no new one, so that the next new name gets its number too and
takes its place. -/
structure Anchors where
  /-- The names, each with its latest number. -/
  numbers : List (String × Nat)
  /-- The scalars by their numbers, the latest first; `none` stands for a mapping. -/
  targets : List (Nat × Option Scalar)

namespace Anchors

/-- No anchor. -/
def none : Anchors := ⟨[], []⟩

/-- Sets an anchor. -/
def add (name : String) (target : Option Scalar) (a : Anchors) : Anchors :=
  let n := a.numbers.length
  ⟨(name, n) :: a.numbers.filter (·.1 != name), (n, target) :: a.targets⟩

/-- The number of a name, which an alias keeps. -/
def number? (name : String) (a : Anchors) : Option Nat := a.numbers.lookup name

end Anchors

namespace Flat

/-- Numbers the anchors and aliases of a scalar. -/
def numberNode (node : Node) : StateT Anchors Option (Scalar ⊕ Nat) := do
  match node with
  | .scalar anchor value =>
    if let some name := anchor then modify (·.add name (some value))
    return .inl value
  | .alias name => return .inr (← (← get).number? name)

/-- Puts the scalars that aliases stand for in their places.  What an alias stands for is settled
when the whole document is known. -/
def resolve? (doc : Flat Node) : Option (Flat Scalar) := do
  match doc with
  | .scalar node =>
    let (value, _) ← (numberNode node).run .none
    return .scalar (← value.getLeft?)
  | .mapping anchor entries =>
    let start := anchor.elim Anchors.none fun name => Anchors.none.add name none
    let (entries, anchors) ← (entries.mapM fun (key, value) => do
      return (← numberNode key, ← numberNode value)).run start
    let target (s : Scalar ⊕ Nat) : Option Scalar :=
      s.elim some fun n => (anchors.targets.lookup n).join
    return .mapping anchor (← entries.mapM fun (key, value) => do
      return (← target key, ← target value))

/-- The flat document that a text holds. -/
def parse? (text : String) : Option (Flat Scalar) := do
  (← document? (← Token.scan? text)).resolve?

end Flat

end ApiContract.Yaml
