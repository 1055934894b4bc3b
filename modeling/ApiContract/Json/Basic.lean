import ApiContract.Dict
import ApiContract.Json.Number

/-! # JSON values

A value is null, a truth value, a number, a text, a list of values or an object.  An object lists
its members by increasing key, each key once; `Json.object` builds one from any list of pairs.

* `Json.same` is equality of values, which differs from equality only in that `0.0` and `-0.0` are
  the same.
* `Json.sizeOf_lt_of_mem` and its companions say that what is inside a value is smaller, the
  measure by which recursion over values ends. -/

namespace ApiContract

/-- A JSON value. -/
inductive Json
  | null
  | bool (b : Bool)
  | num (n : Number)
  | str (s : String)
  | arr (items : List Json)
  | obj (members : List (String × Json))

namespace Json

instance : Inhabited Json := ⟨.null⟩

/-- The object with the given members, of which the last with a key counts. -/
def object (members : List (String × Json)) : Json := .obj (Entries.ofList members)

/-- The object of a dictionary. -/
def ofDict (d : Dict Json) : Json := .obj d.entries

/-- Sets a member of an object; other values stay as they are. -/
def set (v : Json) (key : String) (value : Json) : Json :=
  match v with
  | .obj members => .obj (Entries.insert key value members)
  | v => v

/-- The member of an object at a key. -/
def get? (v : Json) (key : String) : Option Json :=
  match v with
  | .obj members => members.lookup key
  | _ => none

/-- Whether a value is null. -/
def isNull : Json → Bool
  | .null => true
  | _ => false

theorem isNull_iff {v : Json} : v.isNull = true ↔ v = .null := by
  cases v <;> simp [isNull]

/-- Whether a value is an object. -/
def isObject : Json → Bool
  | .obj _ => true
  | _ => false

/-- The text of a text value. -/
def str? : Json → Option String
  | .str s => some s
  | _ => none

/-- An integer of at most 64 bits as a value; null beyond that. -/
def ofInt (n : Int) : Json := ((Number.ofInt? n).map Json.num).getD .null

/-- The nearest binary64 number of a number. -/
def toBinary64? : Json → Option Binary64
  | .num n => n.toBinary64?
  | _ => none

mutual

/-- Equality of values, for which the two zeros of binary64 are equal. -/
def same : Json → Json → Bool
  | .null, .null => true
  | .bool a, .bool b => a == b
  | .num a, .num b => a.same b
  | .str a, .str b => a == b
  | .arr as, .arr bs => sameItems as bs
  | .obj as, .obj bs => sameMembers as bs
  | _, _ => false

/-- `Json.same` for each item of two lists of one length. -/
def sameItems : List Json → List Json → Bool
  | [], [] => true
  | a :: as, b :: bs => same a b && sameItems as bs
  | _, _ => false

/-- Equal keys and `Json.same` for each member of two objects of one size. -/
def sameMembers : List (String × Json) → List (String × Json) → Bool
  | [], [] => true
  | (k, a) :: as, (l, b) :: bs => k == l && same a b && sameMembers as bs
  | _, _ => false

end

/-! ### What is inside is smaller -/

theorem sizeOf_item_lt {item : Json} {items : List Json} (h : item ∈ items) :
    sizeOf item < sizeOf (Json.arr items) := by
  have := List.sizeOf_lt_of_mem h
  simp only [Json.arr.sizeOf_spec]; omega

theorem sizeOf_member_lt {key : String} {value : Json} {members : List (String × Json)}
    (h : (key, value) ∈ members) : sizeOf value < sizeOf (Json.obj members) := by
  have := List.sizeOf_lt_of_mem h
  simp only [Json.obj.sizeOf_spec, Prod.mk.sizeOf_spec] at *; omega

theorem sizeOf_key_lt {key : String} {value : Json} {members : List (String × Json)}
    (h : (key, value) ∈ members) : sizeOf (Json.str key) < sizeOf (Json.obj members) := by
  have := List.sizeOf_lt_of_mem h
  simp only [Json.obj.sizeOf_spec, Json.str.sizeOf_spec, Prod.mk.sizeOf_spec] at *; omega

theorem sizeOf_lookup_lt {key : String} {value : Json} {members : List (String × Json)}
    (h : members.lookup key = some value) : sizeOf value < sizeOf (Json.obj members) :=
  sizeOf_member_lt (Entries.mem_of_lookup h)

end Json
end ApiContract
