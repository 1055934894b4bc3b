import ApiContract.Proofs.Schema.LeafFragments

/-! # Registries that can be put together

A registry starts empty or with the built-in leaves, and leaves are registered one after the other
(`Registry.Assembled`).  As registering refuses everything else, all fragments of such a registry are
objects, and so are the fragments of all types (`Registry.Assembled.isObject_fragment`).

Of a sequence of registrations those that are refused change nothing, and of the others the last of a
name counts (`Registry.lookup_registerAll`). -/

namespace ApiContract
namespace Registry

/-- The registries that registering leaves leads to. -/
inductive Assembled : Registry → Prop
  | empty : Assembled empty
  | builtin : Assembled builtin
  | register {r next : Registry} {l : Leaf} {fragment : Json} (before : Assembled r)
    (registered : r.register l fragment = .ok next) : Assembled next

theorem register_eq_ok {r next : Registry} {l : Leaf} {fragment : Json}
    (h : r.register l fragment = .ok next) :
    fragment.isObject = true ∧ next = ⟨r.fragments.insert l.name fragment⟩ := by
  unfold register at h
  split at h
  · cases h
  · split at h
    · cases h
    · next object =>
      rw [Bool.not_eq_true', Bool.not_eq_false] at object
      exact ⟨object, (Except.ok.inj h).symm⟩

variable {r : Registry}

theorem Assembled.isObject (assembled : r.Assembled) {l : Leaf} {fragment : Json}
    (h : r.lookup l = some fragment) : fragment.isObject = true := by
  induction assembled with
  | empty => cases h
  | builtin => exact isObject_lookup_builtin h
  | register before registered ih =>
      obtain ⟨object, rfl⟩ := register_eq_ok registered
      rw [lookup, Dict.get?_insert] at h
      split at h
      · rw [← Option.some.inj h]
        exact object
      · exact ih h

/-- All fragments are objects, so nothing that is set in one is lost. -/
theorem Assembled.isObject_fragment (assembled : r.Assembled) (c : Catalog) (ty : Descriptor) :
    (ty.fragment r c).isObject = true := by
  cases ty with
  | leaf l =>
      rw [Descriptor.fragment]
      cases h : r.lookup l with
      | none => rfl
      | some fragment => exact assembled.isObject h
  | optional inner =>
      rw [Descriptor.fragment, Descriptor.nullable, Json.isObject_set]
      exact assembled.isObject_fragment c inner
  | withDefault inner value => exact assembled.isObject_fragment c inner
  | constrained inner con => exact assembled.isObject_fragment c inner
  | sum left right =>
      rw [Descriptor.fragment]
      split
      · rw [Descriptor.nullable, Json.isObject_set]
        exact assembled.isObject_fragment c left
      · split
        · rw [Descriptor.nullable, Json.isObject_set]
          exact assembled.isObject_fragment c right
        · rfl
  | struct id => rw [Descriptor.fragment, Descriptor.refTo]; cases c.find? id <;> rfl
  | recursive id => rw [Descriptor.fragment, Descriptor.refTo]; cases c.resolve? id <;> rfl
  | array element => rfl
  | map key value => rfl
  | record fields => rfl

/-! ### Sequences of registrations -/

/-- The registrations that are not refused. -/
def accepts (l : Leaf) (fragment : Json) : Bool := isIdentity l.name && fragment.isObject

/-- The registry after a registration; one that is refused leaves it as it is. -/
def registered (r : Registry) (call : Leaf × Json) : Registry :=
  (r.register call.1 call.2).toOption.getD r

/-- The registry after registrations one after the other. -/
def registerAll (r : Registry) (calls : List (Leaf × Json)) : Registry := calls.foldl registered r

theorem isOk_register (r : Registry) (l : Leaf) (fragment : Json) :
    (r.register l fragment).isOk = accepts l fragment := by
  unfold register accepts
  cases isIdentity l.name with
  | false => rfl
  | true => cases fragment.isObject <;> rfl

theorem lookup_registered (r : Registry) (call : Leaf × Json) (l : Leaf) :
    (r.registered call).lookup l =
      if accepts call.1 call.2 && call.1.name == l.name then some call.2 else r.lookup l := by
  unfold registered register accepts
  cases isIdentity call.1.name with
  | false => rfl
  | true =>
      cases call.2.isObject with
      | false => rfl
      | true =>
          show (r.fragments.insert call.1.name call.2).get? l.name = _
          rw [Dict.get?_insert]
          by_cases same : l.name = call.1.name
          · simp [same]
          · simp [same, Ne.symm same, lookup]

/-- The last registration of a name that has not been refused counts, and before it what was there. -/
theorem lookup_registerAll (r : Registry) (calls : List (Leaf × Json)) (l : Leaf) :
    (r.registerAll calls).lookup l = ((calls.reverse.find? fun call =>
      accepts call.1 call.2 && call.1.name == l.name).map Prod.snd).or (r.lookup l) := by
  induction calls generalizing r with
  | nil => rfl
  | cons call rest ih =>
      have first := lookup_registered r call l
      rw [registerAll, List.foldl_cons, ← registerAll, ih, first, List.reverse_cons, List.find?_append,
        List.find?_singleton]
      cases rest.reverse.find? _ with
      | some last => rfl
      | none => split <;> rfl

theorem Assembled.registered (assembled : r.Assembled) (call : Leaf × Json) :
    (r.registered call).Assembled := by
  unfold Registry.registered
  cases answer : r.register call.1 call.2 with
  | error e => exact assembled
  | ok next => exact assembled.register answer

theorem Assembled.registerAll (assembled : r.Assembled) (calls : List (Leaf × Json)) :
    (r.registerAll calls).Assembled := by
  induction calls generalizing r with
  | nil => exact assembled
  | cons call rest ih => exact ih (assembled.registered call)

end Registry
end ApiContract
