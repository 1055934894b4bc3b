import ApiContract.Proofs.LeafValues
import ApiContract.Proofs.Schema.Validity

/-! # Leaves and their fragments

The fragment of a built-in leaf is a schema for the type that its values have as JSON values.  The
leaves `any` and `null` have fragments that hold of all values.  So what a leaf reads is valid against
its fragment (`Registry.valid_of_read`). -/

namespace ApiContract
namespace Registry

theorem lookup_builtin (l : Leaf) : builtin.lookup l =
    if l.name = "null" then some (Descriptor.nullable (.obj []))
    else if l.name = "any" then some (.obj [])
    else if l.name = "uuid" then some (formatted "uuid")
    else if l.name = "date-time" then some (formatted "date-time")
    else if l.name = "date" then some (formatted "date")
    else if l.name = "boolean" then some (plain "boolean")
    else if l.name = "number" then some (plain "number")
    else if l.name = "integer" then some (plain "integer")
    else if l.name = "string" then some (plain "string") else none := by
  unfold lookup builtin
  rw [Dict.get?_ofList]
  simp only [List.reverse_cons, List.reverse_nil, List.nil_append, List.cons_append,
    Entries.lookup_cons, List.lookup_nil]
  rfl

theorem valid_of_value (doc : Document) {l : Leaf} {w : Json} (value : l.Value w) :
    doc.Valid ((builtin.lookup l).getD (.obj [])) w := by
  rw [lookup_builtin]
  cases value with
  | string | boolean => exact (Document.valid_typed _).2 (List.mem_singleton_self _)
  | integer => exact (Document.valid_typed _).2 List.mem_cons_self
  | number n => exact (Document.valid_typed _).2 (by cases n <;> simp [Json.typeNames])
  | date | dateTime | uuid => exact (Document.valid_formatted _).2 (List.mem_singleton_self _)
  | any => exact Document.valid_empty
  | null => exact (Document.valid_nullable rfl).2 (.inl rfl)

theorem valid_of_read (doc : Document) {l : Leaf} (known : l ∈ Leaf.builtin) {v w : Json}
    (h : l.read v = .ok w) : doc.Valid ((builtin.lookup l).getD (.obj [])) w :=
  valid_of_value doc (Leaf.value_of_read known h)

theorem isObject_lookup_builtin {l : Leaf} {fragment : Json} (h : builtin.lookup l = some fragment) :
    fragment.isObject = true := by
  rw [lookup_builtin] at h
  repeat' split at h
  all_goals cases h
  all_goals rfl

end Registry
end ApiContract
