import ApiContract.Dict
import ApiContract.Leaf
import ApiContract.SetupError

/-! # The registry of leaves

The registry holds the schema fragment of each leaf, by the leaf's name.  Nothing compiles against
an empty registry. -/

namespace ApiContract

/-- The fragments of the leaves, by name. -/
structure Registry where
  fragments : Dict Json

namespace Registry

/-- No leaf at all. -/
def empty : Registry := ⟨Dict.empty⟩

/-- The fragment of a text with a format. -/
def formatted (format : String) : Json :=
  .object [("type", .str "string"), ("format", .str format)]

/-- The fragment of a type with no more to say. -/
def plain (type : String) : Json := .object [("type", .str type)]

/-- The built-in leaves with their fragments. -/
def builtin : Registry :=
  ⟨Dict.ofList [
    (Leaf.string.name, plain "string"),
    (Leaf.integer.name, plain "integer"),
    (Leaf.number.name, plain "number"),
    (Leaf.boolean.name, plain "boolean"),
    (Leaf.date.name, formatted "date"),
    (Leaf.dateTime.name, formatted "date-time"),
    (Leaf.uuid.name, formatted "uuid"),
    (Leaf.any.name, .obj []),
    (Leaf.null.name, .object [("nullable", .bool true)])]⟩

/-- A name that can identify a schema: not empty, with no blank and no slash. -/
def isIdentity (name : String) : Bool :=
  !name.isEmpty && !name.toList.any fun c => Text.isBlank c || c = '/'

/-- Sets the fragment of a leaf. -/
def register (r : Registry) (l : Leaf) (fragment : Json) : Except SetupError Registry :=
  if !isIdentity l.name then .error (.invalidLeafName l.name)
  else if !fragment.isObject then .error (.invalidFragment l.name)
  else .ok ⟨r.fragments.insert l.name fragment⟩

/-- The fragment of a leaf. -/
def lookup (r : Registry) (l : Leaf) : Option Json := r.fragments.get? l.name

/-- Whether a leaf has a fragment. -/
def contains (r : Registry) (l : Leaf) : Bool := (r.lookup l).isSome

/-- How many leaves have a fragment. -/
def size (r : Registry) : Nat := r.fragments.size

end Registry
end ApiContract
