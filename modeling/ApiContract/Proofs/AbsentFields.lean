import ApiContract.Proofs.Coercion
import ApiContract.Proofs.Reach
import Mathlib.Data.List.Basic
import Mathlib.Data.List.Nodup

/-! # Absent fields and null fields

A field that has a default may be left out, and then the object has the default.  If the field is null
instead, its type reads null, and a default makes its value of that as well.  The two ways differ in what
stands around the default: an absent field gets the default as it is, and null is read through every
constraint of the field's type.

So it makes no difference whether a field is left out or null exactly if the default is null, which
constraints let pass, or satisfies the constraints around it (`Descriptor.absent_eq_null_iff`).  A
default that does not satisfy them is in the object if the field is left out, and the object is refused
if the field is null (`Descriptor.nights_null_refused`). -/

namespace ApiContract
namespace Descriptor

/-- The constraints around a type, from the outside in. -/
def constraints : Descriptor → List Constraint
  | .constrained inner con => con :: inner.constraints
  | _ => []

variable {c : Catalog}

/-! ### Reading null -/

theorem coerce_null_eq_ok_iff : ∀ (ty : Descriptor) {fallback w : Json},
    ty.defaultValue? = some fallback → (coerce c ty .null = .ok w ↔
      w = fallback ∧ (fallback = .null ∨ ∀ con ∈ ty.constraints, con.check fallback = .ok ()))
  | .withDefault inner value, fallback, w, has => by
      obtain rfl := Option.some.inj has
      rw [coerce_withDefault_eq_ok_iff]
      simp [constraints]
  | .constrained inner con, fallback, w, has => by
      have optional := isRequired_of_defaultValue? inner has
      rw [coerce_constrained_eq_ok_iff, coerce_null_eq_ok_iff inner has, constraints,
        List.forall_mem_cons]
      constructor
      · rintro ⟨⟨rfl, null | inside⟩, outside⟩
        · exact ⟨rfl, .inl null⟩
        · rcases outside with checked | ⟨null, -⟩
          · exact ⟨rfl, .inr ⟨checked, inside⟩⟩
          · exact ⟨rfl, .inl null⟩
      · rintro ⟨rfl, null | ⟨checked, inside⟩⟩
        · exact ⟨⟨rfl, .inl null⟩, .inr ⟨null, optional⟩⟩
        · exact ⟨⟨rfl, .inr inside⟩, .inl checked⟩

/-! ### One field more -/

section fields
variable {members : List (String × Json)} {fields : List Field} {f : Field} {fallback : Json}

theorem coerce_of_fieldsOf? {ty : Descriptor} (declares : ty.fieldsOf? c = some fields) (v : Json) :
    coerce c ty v = coerceFields c fields v := by
  cases ty with
  | struct id =>
      obtain ⟨d, found, rfl⟩ := Option.map_eq_some_iff.1 declares
      rw [coerce_struct, show c.find? id = some d from found]
  | recursive id =>
      obtain ⟨d, found, rfl⟩ := Option.map_eq_some_iff.1 declares
      rw [coerce_recursive, show c.resolve? id = some d from found]
  | record =>
      cases declares
      exact coerce_record c fields v
  | _ => cases declares

/-- What a field contributes to the object that is read from some members. -/
def contribution (c : Catalog) (members : List (String × Json)) (f : Field) :
    Checked (Option (String × Json)) :=
  fieldResult f ((members.lookup f.name).map (coerce c f.type))

theorem violations_coerceFields (members : List (String × Json)) (fields : List Field) :
    (coerceFields c fields (.obj members)).violations =
      fields.flatMap fun f => (contribution c members f).violations := by
  rw [coerceFields_obj, Checked.violations_map, Checked.violations_all, List.flatMap_map]
  rfl

theorem contribution_insert_of_ne {name : String} {v : Json} (other : f.name ≠ name) :
    contribution c (Entries.insert name v members) f = contribution c members f := by
  rw [contribution, Entries.lookup_insert, if_neg other, contribution]

theorem contribution_absent (absent : members.lookup f.name = none)
    (default : f.type.defaultValue? = some fallback) :
    contribution c members f = .ok (some (f.name, fallback)) := by
  rw [contribution, absent]
  exact fieldResult_eq_ok_iff.2 (.inr (.inl ⟨fallback, rfl, default, rfl⟩))

theorem contribution_null : contribution c (Entries.insert f.name .null members) f =
    ((coerce c f.type .null).nest f.name).map fun v => some (f.name, v) := by
  rw [contribution, Entries.lookup_insert, if_pos rfl]
  rfl

/-- The violations of the object with null are those of the object without the field, and among them
those of null at the field. -/
theorem exists_violations_null (names : (fields.map Member.name).Nodup) (mem : f ∈ fields)
    (default : f.type.defaultValue? = some fallback) (absent : members.lookup f.name = none) :
    ∃ before after,
      (coerceFields c fields (.obj members)).violations = before ++ after ∧
      (coerceFields c fields (.obj (Entries.insert f.name .null members))).violations =
        before ++ (coerce c f.type .null).violations.map (·.nested f.name) ++ after := by
  obtain ⟨as, bs, rfl⟩ := List.append_of_mem mem
  rw [List.map_append, List.map_cons, List.nodup_append, List.nodup_cons] at names
  obtain ⟨-, ⟨fresh, -⟩, apart⟩ := names
  have left : ∀ g ∈ as, g.name ≠ f.name := fun g hg =>
    apart _ (List.mem_map_of_mem hg) _ List.mem_cons_self
  have right : ∀ g ∈ bs, g.name ≠ f.name := fun g hg same =>
    fresh (same ▸ List.mem_map_of_mem hg)
  have unchanged {gs : List Field} (other : ∀ g ∈ gs, g.name ≠ f.name) :
      (gs.flatMap fun g => (contribution c (Entries.insert f.name .null members) g).violations) =
        gs.flatMap fun g => (contribution c members g).violations :=
    List.flatMap_congr fun g hg => by rw [contribution_insert_of_ne (other g hg)]
  refine ⟨as.flatMap fun g => (contribution c members g).violations,
    bs.flatMap fun g => (contribution c members g).violations, ?_, ?_⟩
  · rw [violations_coerceFields, List.flatMap_append, List.flatMap_cons,
      contribution_absent absent default]
    rfl
  · rw [violations_coerceFields, List.flatMap_append, List.flatMap_cons, unchanged left,
      unchanged right, contribution_null, Checked.violations_map, Checked.violations_nest,
      List.append_assoc]

/-- It makes no difference whether a field with a default is left out or null, exactly if the default is
null or satisfies the constraints around it. -/
theorem absent_eq_null_iff {ty : Descriptor} (declares : ty.fieldsOf? c = some fields)
    (names : (fields.map Member.name).Nodup) (mem : f ∈ fields)
    (default : f.type.defaultValue? = some fallback) (absent : members.lookup f.name = none) :
    coerce c ty (.obj members) = coerce c ty ((Json.obj members).set f.name .null) ↔
      fallback = .null ∨ ∀ con ∈ f.type.constraints, con.check fallback = .ok () := by
  rw [coerce_of_fieldsOf? declares, coerce_of_fieldsOf? declares, Json.set]
  constructor
  · intro same
    obtain ⟨before, after, without, withNull⟩ := exists_violations_null (c := c) names mem default absent
    rw [← same, without, List.append_assoc, List.append_cancel_left_eq, List.self_eq_append_left,
      List.map_eq_nil_iff, Checked.violations_eq_nil_iff (coerce_ne_error_nil c f.type .null)] at withNull
    obtain ⟨w, read⟩ := withNull
    exact ((coerce_null_eq_ok_iff f.type default).1 read).2
  · intro accepted
    have read := (coerce_null_eq_ok_iff (c := c) f.type default).2 ⟨rfl, accepted⟩
    have same : ∀ g ∈ fields,
        contribution c (Entries.insert f.name .null members) g = contribution c members g := by
      intro g hg
      by_cases own : g.name = f.name
      · obtain rfl := List.inj_on_of_nodup_map names hg mem own
        rw [contribution_null, read, contribution_absent absent default]
        rfl
      · exact contribution_insert_of_ne own
    rw [coerceFields_obj, coerceFields_obj]
    exact congrArg (fun results => (Checked.all results).map _) (List.map_congr_left same).symm

end fields

/-! ### A booking -/

/-- The guest of a booking, who has a name. -/
def guest : Field :=
  ⟨"guest", .constrained (.withDefault (.leaf .string) (.str "nobody")) (.length 1 none), none⟩

/-- The nights of a booking: one or two, and none if nothing is said. -/
def nights : Field :=
  ⟨"nights", .constrained (.withDefault (.leaf .integer) (.ofInt 0)) (.oneOf [.ofInt 1, .ofInt 2]),
    none⟩

/-- The fields of a booking. -/
def booking : List Field := [guest, nights]

theorem guest_absent_eq_null : coerce ⟨[]⟩ (.record booking) (.obj [("nights", .ofInt 1)]) =
    coerce ⟨[]⟩ (.record booking) ((Json.obj [("nights", .ofInt 1)]).set "guest" .null) := by
  have named : ∀ con ∈ guest.type.constraints, con.check (.str "nobody") = .ok () := by
    simp only [guest, constraints, List.forall_mem_singleton]
    rfl
  have declares : (record booking).fieldsOf? ⟨[]⟩ = some booking := rfl
  have mem : guest ∈ booking := List.mem_cons_self
  exact (absent_eq_null_iff declares (by decide) mem rfl rfl).2 (.inr named)

/-- The nights may be left out, and the booking has none of them; but null is refused, as none is neither
one nor two. -/
theorem nights_null_refused :
    (booking.map Member.name).Nodup ∧ nights ∈ booking ∧
    nights.type.defaultValue? = some (.ofInt 0) ∧
    [("guest", Json.str "Ann")].lookup "nights" = none ∧
    coerce ⟨[]⟩ (.record booking) (.obj [("guest", .str "Ann")]) =
      .ok (.obj [("guest", .str "Ann"), ("nights", .ofInt 0)]) ∧
    coerce ⟨[]⟩ (.record booking) ((Json.obj [("guest", .str "Ann")]).set "nights" .null) =
      .error [⟨"nights", "must be one of 1, 2"⟩] := by
  refine ⟨by decide, by simp [booking], rfl, rfl, ?_, ?_⟩
  · simp only [coerce_record, coerceFields_obj, booking, guest, nights, Entries.lookup_cons,
      List.lookup_nil, List.map_cons, List.map_nil, coerce_constrained, coerce_withDefault, coerce_leaf,
      String.reduceEq, if_true, if_false, Option.map_some, Option.map_none]
    rfl
  · simp only [Json.set, Entries.lookup_insert, coerce_record, coerceFields_obj, booking, guest, nights,
      Entries.lookup_cons, List.map_cons, List.map_nil, coerce_constrained, coerce_withDefault,
      coerce_leaf, String.reduceEq, if_true, if_false, Option.map_some]
    rfl

end Descriptor
end ApiContract
