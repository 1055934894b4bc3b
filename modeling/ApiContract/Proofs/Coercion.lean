import ApiContract.Coerce

/-! # Failure and success of coercion

A failed reading names at least one violation (`coerce_ne_error_nil`), at every type and value.  So
nothing is lost where lists, maps and objects collect the violations of their parts and succeed when
they have collected none: each of them succeeds exactly when all its parts do
(`coerce_array_eq_ok_iff`, `coerce_map_eq_ok_iff`, `coerceFields_eq_ok_iff`), and what it gives is put
together from what the parts give. -/

namespace ApiContract

theorem Checked.mapIdx_nest_eq_map_ok {α β : Type} (path : Nat → String) (g : β → Checked α)
    (items : List β) (as : List α) :
    (items.mapIdx fun i x => (g x).nest (path i)) = as.map .ok ↔ items.map g = as.map .ok := by
  simp only [List.ext_getElem?_iff, List.getElem?_mapIdx, List.getElem?_map]
  refine forall_congr' fun i => ?_
  cases items[i]? with
  | none => simp
  | some x =>
      cases as[i]? with
      | none => simp
      | some a => simp [Checked.nest_eq_ok]

namespace Descriptor

/-! ### A failure names a violation -/

theorem fieldResult_ne_error_nil (f : Field) {part : Option (Checked Json)}
    (h : ∀ result, part = some result → result ≠ .error []) : fieldResult f part ≠ .error [] := by
  cases part with
  | some result =>
      have named := Checked.nest_ne_error_nil f.name (h result rfl)
      exact Checked.map_ne_error_nil named
  | none =>
      simp only [fieldResult]
      split
      · simp
      · split <;> simp

theorem entryResult_ne_error_nil (key : String) {keyResult valueResult : Checked Json}
    (hkey : keyResult ≠ .error []) (hvalue : valueResult ≠ .error []) :
    entryResult key keyResult valueResult ≠ .error [] := by
  have named := Checked.nest_ne_error_nil key hvalue
  unfold entryResult
  split
  · next vs => simpa using hkey
  · exact Checked.map_ne_error_nil named
  · exact Checked.map_ne_error_nil named

theorem checkConstraint_ne_error_nil (inner : Descriptor) (con : Constraint) (v : Json) :
    inner.checkConstraint con v ≠ .error [] := by
  unfold checkConstraint
  split
  · simp
  · split <;> simp [Checked.fail]

theorem coerceFields_ne_error_nil (c : Catalog) (fields : List Field) (v : Json) :
    coerceFields c fields v ≠ .error [] := by
  cases v with
  | obj members =>
      rw [coerceFields_obj]
      exact Checked.map_ne_error_nil (Checked.all_ne_error_nil _)
  | _ => rw [coerceFields]; all_goals simp [Checked.fail]

/-- A failed reading names at least one violation.  Lists, maps and objects fail with a list that they
have found not to be empty, so only the wrappers need the induction. -/
theorem coerce_ne_error_nil (c : Catalog) : ∀ (ty : Descriptor) (v : Json), coerce c ty v ≠ .error []
  | .leaf l, v => by
      rw [coerce_leaf]
      cases l.read v with
      | error message => exact fun e => by cases e
      | ok w => exact fun e => by cases e
  | .optional inner, v => by
      rw [coerce_optional]
      split
      · simp
      · exact coerce_ne_error_nil c inner v
  | .withDefault inner fallback, v => by
      rw [coerce_withDefault]
      split
      · simp
      · exact coerce_ne_error_nil c inner v
  | .constrained inner con, v => by
      rw [coerce_constrained]
      cases h : coerce c inner v with
      | error vs => exact fun e => coerce_ne_error_nil c inner v (h.trans e)
      | ok w => exact checkConstraint_ne_error_nil inner con w
  | .sum left right, v => by
      cases h : (sum left right).nullableInner? with
      | some inner =>
          rw [coerce_nullable h]
          split
          · simp
          · have smaller := sizeOf_lt_of_nullableInner? h
            exact coerce_ne_error_nil c inner v
      | none =>
          rw [coerce_sum h]
          split
          · simp
          · split <;> simp [Checked.fail]
  | .struct id, v => by
      rw [coerce_struct]
      split
      · exact coerceFields_ne_error_nil c _ v
      · simp [Checked.fail]
  | .recursive id, v => by
      rw [coerce_recursive]
      split
      · exact coerceFields_ne_error_nil c _ v
      · simp [Checked.fail]
  | .array element, v => by
      cases v with
      | arr items =>
          rw [coerce_array]
          exact Checked.map_ne_error_nil (Checked.all_ne_error_nil _)
      | _ => rw [coerce]; all_goals simp [Checked.fail]
  | .map key value, v => by
      cases v with
      | obj members =>
          rw [coerce_map]
          exact Checked.map_ne_error_nil (Checked.all_ne_error_nil _)
      | _ => rw [coerce]; all_goals simp [Checked.fail]
  | .record fields, v => by
      rw [coerce_record]
      exact coerceFields_ne_error_nil c fields v

/-! ### Success -/

/-- The text that a coerced key stands under in a map. -/
def keyText : Json → String
  | .str s => s
  | k => k.compact

theorem entryResult_eq_ok_iff {key : String} {keyResult valueResult : Checked Json}
    {entry : String × Json} : entryResult key keyResult valueResult = .ok entry ↔
      ∃ k v, keyResult = .ok k ∧ valueResult = .ok v ∧ (keyText k, v) = entry := by
  have tagged (text : String) : ((valueResult.nest key).map fun v => (text, v)) = .ok entry ↔
      ∃ v, valueResult = .ok v ∧ (text, v) = entry := by
    simp only [Checked.map_eq_ok_iff, Checked.nest_eq_ok]
  cases keyResult with
  | error vs => simp [entryResult]
  | ok k => cases k <;> simp [entryResult, keyText, tagged]

/-- What a field can contribute: a read member, the default of an absent one, or nothing for an
absent field that has no default and need not be present. -/
theorem fieldResult_eq_ok_iff {f : Field} {part : Option (Checked Json)}
    {member : Option (String × Json)} : fieldResult f part = .ok member ↔
      (∃ v, part = some (.ok v) ∧ some (f.name, v) = member) ∨
      (∃ v, part = none ∧ f.type.defaultValue? = some v ∧ some (f.name, v) = member) ∨
      (part = none ∧ f.type.defaultValue? = none ∧ f.isRequired = false ∧ none = member) := by
  cases part with
  | some result => simp [fieldResult, Checked.map_eq_ok_iff, Checked.nest_eq_ok]
  | none =>
      simp only [fieldResult]
      cases f.type.defaultValue? with
      | some fallback => simp
      | none => cases f.isRequired <;> simp

/-- A constraint passes on what it has been given, after a check unless the value is exempt. -/
theorem checkConstraint_eq_ok_iff {inner : Descriptor} {con : Constraint} {v w : Json} :
    inner.checkConstraint con v = .ok w ↔
      v = w ∧ (con.check w = .ok () ∨ (w = .null ∧ inner.isRequired = false)) := by
  unfold checkConstraint
  split
  · next exempt =>
    rw [Bool.and_eq_true, Json.isNull_iff, Bool.not_eq_true'] at exempt
    constructor
    · intro h
      cases h
      exact ⟨rfl, .inr exempt⟩
    · rintro ⟨rfl, -⟩
      rfl
  · next due =>
    rw [Bool.and_eq_true, Json.isNull_iff, Bool.not_eq_true'] at due
    cases checked : con.check v with
    | ok u =>
        constructor
        · intro h
          cases h
          exact ⟨rfl, .inl checked⟩
        · rintro ⟨rfl, -⟩
          rfl
    | error message =>
        constructor
        · intro h
          cases h
        · rintro ⟨rfl, satisfied | exempt⟩
          · rw [checked] at satisfied
            cases satisfied
          · exact absurd exempt due

theorem coerce_leaf_eq_ok_iff {c : Catalog} {l : Leaf} {v w : Json} :
    coerce c (.leaf l) v = .ok w ↔ l.read v = .ok w := by
  rw [coerce_leaf]
  cases l.read v with
  | ok read =>
      constructor
      · intro h
        cases h
        rfl
      · intro h
        cases h
        rfl
  | error message =>
      constructor
      · intro h
        cases h
      · intro h
        cases h

theorem coerce_nullable_eq_ok_iff {ty inner : Descriptor} (h : ty.nullableInner? = some inner)
    {c : Catalog} {v w : Json} : coerce c ty v = .ok w ↔
      (inner.meansNull v = true ∧ w = .null) ∨
      (inner.meansNull v = false ∧ coerce c inner v = .ok w) := by
  rw [coerce_nullable h]
  cases inner.meansNull v <;> simp [eq_comm]

theorem coerce_sum_eq_ok_iff {left right : Descriptor}
    (h : (sum left right).nullableInner? = none) {c : Catalog} {v w : Json} :
    coerce c (.sum left right) v = .ok w ↔
      coerce c left v = .ok w ∨ (∀ x, coerce c left v ≠ .ok x) ∧ coerce c right v = .ok w := by
  rw [coerce_sum h]
  cases coerce c left v with
  | ok x => simp
  | error vs => cases coerce c right v <;> simp [Checked.fail]

theorem coerce_withDefault_eq_ok_iff {c : Catalog} {inner : Descriptor} {fallback v w : Json} :
    coerce c (.withDefault inner fallback) v = .ok w ↔
      (v = .null ∧ w = fallback) ∨ (v ≠ .null ∧ coerce c inner v = .ok w) := by
  rw [coerce_withDefault, Ne, ← Json.isNull_iff]
  cases v.isNull <;> simp [eq_comm]

theorem coerce_constrained_eq_ok_iff {c : Catalog} {inner : Descriptor} {con : Constraint}
    {v w : Json} : coerce c (.constrained inner con) v = .ok w ↔
      coerce c inner v = .ok w ∧
        (con.check w = .ok () ∨ (w = .null ∧ inner.isRequired = false)) := by
  rw [coerce_constrained]
  cases coerce c inner v with
  | error vs =>
      constructor
      · intro h
        cases h
      · rintro ⟨h, -⟩
        cases h
  | ok x =>
      refine checkConstraint_eq_ok_iff.trans (and_congr_left fun _ => ?_)
      exact ⟨congrArg Except.ok, Except.ok.inj⟩

theorem coerce_struct_eq_ok_iff {c : Catalog} {id : StructId} {v w : Json} :
    coerce c (.struct id) v = .ok w ↔
      ∃ d, c.find? id = some d ∧ coerceFields c d.fields v = .ok w := by
  rw [coerce_struct]
  cases c.find? id <;> simp [Checked.fail]

theorem coerce_recursive_eq_ok_iff {c : Catalog} {id : Option StructId} {v w : Json} :
    coerce c (.recursive id) v = .ok w ↔
      ∃ d, c.resolve? id = some d ∧ coerceFields c d.fields v = .ok w := by
  rw [coerce_recursive]
  cases c.resolve? id <;> simp [Checked.fail]

theorem coerce_array_eq_ok_iff {c : Catalog} {element : Descriptor} {v w : Json} :
    coerce c (.array element) v = .ok w ↔
      ∃ items ws, v = .arr items ∧ .arr ws = w ∧ items.map (coerce c element) = ws.map .ok := by
  cases v with
  | arr items =>
      have named : ∀ r ∈ items.mapIdx (fun i x => (coerce c element x).nest (indexPath i)),
          r ≠ .error [] := by
        intro r hr
        obtain ⟨i, _, rfl⟩ := List.mem_mapIdx.1 hr
        exact Checked.nest_ne_error_nil _ (coerce_ne_error_nil c element _)
      rw [coerce_array]
      simp only [Checked.map_eq_ok_iff, Checked.all_eq_ok_iff named, Checked.mapIdx_nest_eq_map_ok]
      simp [and_comm]
  | _ => rw [coerce]; all_goals simp [Checked.fail]

theorem coerce_map_eq_ok_iff {c : Catalog} {key value : Descriptor} {v w : Json} :
    coerce c (.map key value) v = .ok w ↔ ∃ members entries, v = .obj members ∧ .object entries = w ∧
      members.map (fun m => entryResult m.1 (coerce c key (.str m.1)) (coerce c value m.2)) =
        entries.map .ok := by
  cases v with
  | obj members =>
      have named : ∀ r ∈ members.map fun m =>
          entryResult m.1 (coerce c key (.str m.1)) (coerce c value m.2), r ≠ .error [] := by
        intro r hr
        obtain ⟨m, -, rfl⟩ := List.mem_map.1 hr
        exact entryResult_ne_error_nil m.1 (coerce_ne_error_nil c key _) (coerce_ne_error_nil c value _)
      rw [coerce_map]
      simp only [Checked.map_eq_ok_iff, Checked.all_eq_ok_iff named]
      simp [and_comm]
  | _ => rw [coerce]; all_goals simp [Checked.fail]

theorem coerceFields_eq_ok_iff {c : Catalog} {fields : List Field} {v w : Json} :
    coerceFields c fields v = .ok w ↔ ∃ members, ∃ parts : List (Option (String × Json)),
      v = .obj members ∧ .object (parts.filterMap id) = w ∧
      fields.map (fun f => fieldResult f ((members.lookup f.name).map (coerce c f.type))) =
        parts.map .ok := by
  cases v with
  | obj members =>
      have named : ∀ r ∈ fields.map fun f =>
          fieldResult f ((members.lookup f.name).map (coerce c f.type)), r ≠ .error [] := by
        intro r hr
        obtain ⟨f, -, rfl⟩ := List.mem_map.1 hr
        refine fieldResult_ne_error_nil f fun result h => ?_
        obtain ⟨x, -, rfl⟩ := Option.map_eq_some_iff.1 h
        exact coerce_ne_error_nil c f.type x
      rw [coerceFields_obj]
      simp only [Checked.map_eq_ok_iff, Checked.all_eq_ok_iff named]
      simp [and_comm]
  | _ => rw [coerceFields]; all_goals simp [Checked.fail]

/-! ### Nothing is swallowed -/

/-- A type that admits null reads what stands for no value, and what the rest of it reads. -/
theorem coerce_nullable_succeeds_iff {ty inner : Descriptor} (h : ty.nullableInner? = some inner)
    {c : Catalog} {v : Json} : (∃ w, coerce c ty v = .ok w) ↔
      inner.meansNull v = true ∨ ∃ w, coerce c inner v = .ok w := by
  simp only [coerce_nullable_eq_ok_iff h]
  cases inner.meansNull v <;> simp

theorem coerce_withDefault_succeeds_iff {c : Catalog} {inner : Descriptor} {fallback v : Json} :
    (∃ w, coerce c (.withDefault inner fallback) v = .ok w) ↔
      v = .null ∨ ∃ w, coerce c inner v = .ok w := by
  simp only [coerce_withDefault_eq_ok_iff]
  by_cases null : v = .null <;> simp [null]

theorem coerce_sum_succeeds_iff {left right : Descriptor}
    (h : (sum left right).nullableInner? = none) {c : Catalog} {v : Json} :
    (∃ w, coerce c (.sum left right) v = .ok w) ↔
      (∃ w, coerce c left v = .ok w) ∨ ∃ w, coerce c right v = .ok w := by
  rw [coerce_sum h]
  cases coerce c left v with
  | ok w => simp
  | error vs => cases coerce c right v <;> simp [Checked.fail]

theorem coerce_array_succeeds_iff {c : Catalog} {element : Descriptor} {items : List Json} :
    (∃ w, coerce c (.array element) (.arr items) = .ok w) ↔
      ∀ x ∈ items, ∃ y, coerce c element x = .ok y := by
  rw [← Checked.exists_map_eq_map_ok_iff]
  constructor
  · rintro ⟨w, h⟩
    obtain ⟨_, ws, e, -, read⟩ := coerce_array_eq_ok_iff.1 h
    cases e
    exact ⟨ws, read⟩
  · rintro ⟨ws, read⟩
    exact ⟨_, coerce_array_eq_ok_iff.2 ⟨items, ws, rfl, rfl, read⟩⟩

theorem coerce_map_succeeds_iff {c : Catalog} {key value : Descriptor}
    {members : List (String × Json)} :
    (∃ w, coerce c (.map key value) (.obj members) = .ok w) ↔
      ∀ m ∈ members, (∃ k, coerce c key (.str m.1) = .ok k) ∧ ∃ y, coerce c value m.2 = .ok y := by
  have entry (m : String × Json) :
      (∃ a, entryResult m.1 (coerce c key (.str m.1)) (coerce c value m.2) = .ok a) ↔
        (∃ k, coerce c key (.str m.1) = .ok k) ∧ ∃ y, coerce c value m.2 = .ok y := by
    constructor
    · rintro ⟨a, h⟩
      obtain ⟨k, y, hk, hy, -⟩ := entryResult_eq_ok_iff.1 h
      exact ⟨⟨k, hk⟩, y, hy⟩
    · rintro ⟨⟨k, hk⟩, y, hy⟩
      exact ⟨_, entryResult_eq_ok_iff.2 ⟨k, y, hk, hy, rfl⟩⟩
  simp only [← entry]
  rw [← Checked.exists_map_eq_map_ok_iff]
  constructor
  · rintro ⟨w, h⟩
    obtain ⟨_, entries, e, -, read⟩ := coerce_map_eq_ok_iff.1 h
    cases e
    exact ⟨entries, read⟩
  · rintro ⟨entries, read⟩
    exact ⟨_, coerce_map_eq_ok_iff.2 ⟨members, entries, rfl, rfl, read⟩⟩

theorem coerceFields_succeeds_iff {c : Catalog} {fields : List Field}
    {members : List (String × Json)} :
    (∃ w, coerceFields c fields (.obj members) = .ok w) ↔
      ∀ f ∈ fields, match members.lookup f.name with
        | some x => ∃ y, coerce c f.type x = .ok y
        | none => f.type.defaultValue? = none → f.isRequired = false := by
  have field (f : Field) :
      (∃ a, fieldResult f ((members.lookup f.name).map (coerce c f.type)) = .ok a) ↔
        match members.lookup f.name with
        | some x => ∃ y, coerce c f.type x = .ok y
        | none => f.type.defaultValue? = none → f.isRequired = false := by
    cases members.lookup f.name with
    | some x =>
        simp only [fieldResult, Option.map_some, Checked.map_eq_ok_iff, Checked.nest_eq_ok]
        constructor
        · rintro ⟨_, y, read, -⟩
          exact ⟨y, read⟩
        · rintro ⟨y, read⟩
          exact ⟨_, y, read, rfl⟩
    | none =>
        simp only [fieldResult, Option.map_none]
        cases f.type.defaultValue? <;> cases f.isRequired <;> simp
  simp only [← field]
  rw [← Checked.exists_map_eq_map_ok_iff]
  constructor
  · rintro ⟨w, h⟩
    obtain ⟨_, parts, e, -, read⟩ := coerceFields_eq_ok_iff.1 h
    cases e
    exact ⟨parts, read⟩
  · rintro ⟨parts, read⟩
    exact ⟨_, coerceFields_eq_ok_iff.2 ⟨members, parts, rfl, rfl, read⟩⟩

/-! ### The members of objects -/

/-- Where a member of a coerced object comes from: a member that was read, or the default of an absent
one. -/
inductive Contributes (c : Catalog) (members : List (String × Json)) (f : Field) (w : Json) : Prop
  | read (x : Json) (found : members.lookup f.name = some x) (coerced : coerce c f.type x = .ok w)
  | default (absent : members.lookup f.name = none) (value : f.type.defaultValue? = some w)

/-- Coerced fields make an object.  Each of its members comes from a field of its name, and each field
that must be present or has a default has a member. -/
theorem coerceFields_members {c : Catalog} {fields : List Field} {v w : Json}
    (h : coerceFields c fields v = .ok w) : ∃ members entries, v = .obj members ∧
      w = .object entries ∧
      (∀ name y, (name, y) ∈ entries → ∃ f ∈ fields, f.name = name ∧ Contributes c members f y) ∧
      ∀ f ∈ fields, f.isRequired = true ∨ f.type.defaultValue?.isSome = true →
        ∃ y, (f.name, y) ∈ entries := by
  obtain ⟨members, parts, rfl, rfl, results⟩ := coerceFields_eq_ok_iff.1 h
  refine ⟨members, parts.filterMap id, rfl, rfl, ?_, ?_⟩
  · intro name y hm
    obtain ⟨part, hp, rfl⟩ := List.mem_filterMap.1 hm
    obtain ⟨f, hf, result⟩ := Checked.exists_source results hp
    refine ⟨f, hf, ?_⟩
    rcases fieldResult_eq_ok_iff.1 result with ⟨z, hz, e⟩ | ⟨z, absent, value, e⟩ | ⟨-, -, -, e⟩
    · obtain ⟨rfl, rfl⟩ := Prod.mk.inj (Option.some.inj e)
      obtain ⟨x, found, coerced⟩ := Option.map_eq_some_iff.1 hz
      exact ⟨rfl, .read x found coerced⟩
    · obtain ⟨rfl, rfl⟩ := Prod.mk.inj (Option.some.inj e)
      exact ⟨rfl, .default (Option.map_eq_none_iff.1 absent) value⟩
    · cases e
  · intro f hf needed
    obtain ⟨part, hp, result⟩ := Checked.exists_result results hf
    rcases fieldResult_eq_ok_iff.1 result with ⟨y, -, rfl⟩ | ⟨y, -, -, rfl⟩ | ⟨-, none, optional, -⟩
    · exact ⟨y, List.mem_filterMap.2 ⟨_, hp, rfl⟩⟩
    · exact ⟨y, List.mem_filterMap.2 ⟨_, hp, rfl⟩⟩
    · rw [none, optional] at needed
      simp at needed

end Descriptor
end ApiContract
