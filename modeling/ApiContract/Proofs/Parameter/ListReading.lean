import ApiContract.Parameter.Candidate
import ApiContract.Proofs.Coercion
import Mathlib.Data.List.Forall2

/-! # Lists under wrappers

A list type may stand under wrappers: it may be optional, have a default, be constrained, or be one side of
a sum with the leaf of absence.  Three functions look through these wrappers, each on its own: the one that
finds the type of the items, the one that makes a list of a raw value, and coercion.  They agree.

* The candidate of a list type is a list of texts, whatever stands on the wire (`candidate_of_list`).
* A list is read at the type as at the bare list type, and then passes the constraints around it, the
  innermost first (`Descriptor.coerce_arr`).  No wrapper has a way of its own for a list: a list is neither
  null nor the empty text.
* So a raw value has one of three outcomes, which `Descriptor.ReadsList` lists
  (`Descriptor.candidate_readsList`). -/

namespace ApiContract

/-! ### The candidate -/

/-- The texts that a raw value has for a list type. -/
def RawValue.items (style : Style) : RawValue → List String
  | .single text | .many [text] => splitItems style text
  | .many texts => texts

theorem candidate_of_list {ty element : Descriptor} (list : ty.collectionElement? = some element)
    (raw : RawValue) (style : Style) : candidate raw ty style = textList (raw.items style) := by
  cases raw with
  | single text => rw [candidate.eq_def, list, RawValue.items]
  | many texts =>
      match texts with
      | [] | [_] | _ :: _ :: _ => rw [candidate.eq_def, list, RawValue.items.eq_def]

namespace Descriptor

/-! ### Constraints around a list -/

/-- The constraints around a list type, the innermost first. -/
def listConstraints : Descriptor → List Constraint
  | .constrained inner con => inner.listConstraints ++ [con]
  | .optional inner | .withDefault inner _ => inner.listConstraints
  | .sum left right =>
    if right.isAbsence then left.listConstraints
    else if left.isAbsence then right.listConstraints
    else []
  | _ => []

theorem listConstraints_nullable {ty inner : Descriptor} (h : ty.nullableInner? = some inner) :
    ty.listConstraints = inner.listConstraints := by
  rcases nullableInner?_eq_some h with rfl | ⟨right, rfl, hr⟩ | ⟨left, rfl, hr, hl⟩
  · rfl
  · rw [listConstraints, if_pos hr]
  · rw [listConstraints, hr, if_neg Bool.false_ne_true, if_pos hl]

/-- Runs constraints on a value until one refuses it. -/
def checkAll : List Constraint → Json → Checked Json
  | [], v => .ok v
  | con :: rest, v =>
    match con.check v with
    | .ok () => checkAll rest v
    | .error message => Checked.fail message

theorem checkAll_append (before after : List Constraint) (v : Json) :
    checkAll (before ++ after) v = checkAll before v >>= checkAll after := by
  induction before with
  | nil => rfl
  | cons con rest ih =>
      rw [List.cons_append, checkAll, checkAll]
      cases con.check v with
      | ok => exact ih
      | error message => rfl

/-- A list is no null, so that no constraint exempts it. -/
theorem checkConstraint_arr (inner : Descriptor) (con : Constraint) (items : List Json) :
    inner.checkConstraint con (.arr items) = checkAll [con] (.arr items) := by
  have due : ((Json.arr items).isNull && !inner.isRequired) = false := rfl
  rw [checkConstraint, due, if_neg Bool.false_ne_true, checkAll]
  cases con.check (.arr items) <;> rfl

theorem checkAll_of_passed {cons : List Constraint} {v : Json}
    (passed : ∀ con ∈ cons, con.check v = .ok ()) : checkAll cons v = .ok v := by
  induction cons with
  | nil => rfl
  | cons con rest ih =>
      obtain ⟨first, others⟩ := List.forall_mem_cons.1 passed
      rw [checkAll, first]
      exact ih others

theorem checkAll_of_refused {before after : List Constraint} {con : Constraint} {v : Json}
    {message : String} (passed : ∀ inside ∈ before, inside.check v = .ok ())
    (refused : con.check v = .error message) :
    checkAll (before ++ con :: after) v = .error [.whole message] := by
  rw [checkAll_append, checkAll_of_passed passed]
  show checkAll (con :: after) v = _
  rw [checkAll, refused]
  rfl

theorem passed_or_refused (cons : List Constraint) (v : Json) :
    (∀ con ∈ cons, con.check v = .ok ()) ∨
    ∃ before con after message, cons = before ++ con :: after ∧
      (∀ inside ∈ before, inside.check v = .ok ()) ∧ con.check v = .error message := by
  induction cons with
  | nil => exact .inl (List.forall_mem_nil _)
  | cons con rest ih =>
      cases checked : con.check v with
      | error message => exact .inr ⟨[], con, rest, message, rfl, List.forall_mem_nil _, checked⟩
      | ok =>
          rcases ih with all | ⟨before, refusing, after, message, rfl, passed, refused⟩
          · exact .inl (List.forall_mem_cons.2 ⟨checked, all⟩)
          · exact .inr ⟨con :: before, refusing, after, message, rfl,
              List.forall_mem_cons.2 ⟨checked, passed⟩, refused⟩

/-! ### Reading a list -/

variable {c : Catalog}

theorem bind_coerce_array {element : Descriptor} {items : List Json} {f g : Json → Checked Json}
    (same : ∀ ws, f (.arr ws) = g (.arr ws)) :
    (coerce c (.array element) (.arr items) >>= f) = coerce c (.array element) (.arr items) >>= g := by
  cases read : coerce c (.array element) (.arr items) with
  | error vs => rfl
  | ok w =>
      obtain ⟨_, ws, -, rfl, -⟩ := coerce_array_eq_ok_iff.1 read
      exact same ws

/-- A list type under wrappers reads a list as the bare list type does, and then runs the constraints
around it. -/
theorem coerce_arr (c : Catalog) (items : List Json) : ∀ (ty : Descriptor) {element : Descriptor},
    ty.collectionElement? = some element →
    coerce c ty (.arr items) =
      coerce c (.array element) (.arr items) >>= checkAll ty.listConstraints
  | .array element, _, list => by
      obtain rfl := Option.some.inj list
      show _ = coerce c (.array element) (.arr items) >>= Except.ok
      cases coerce c (.array element) (.arr items) <;> rfl
  | .optional inner, element, list => by
      have present : inner.meansNull (.arr items) = false := rfl
      rw [coerce_optional, present, if_neg Bool.false_ne_true]
      exact coerce_arr c items inner list
  | .withDefault inner fallback, element, list => by
      have present : (Json.arr items).isNull = false := rfl
      rw [coerce_withDefault, present, if_neg Bool.false_ne_true]
      exact coerce_arr c items inner list
  | .constrained inner con, element, list => by
      have list : inner.collectionElement? = some element := list
      have inside := coerce_arr c items inner list
      rw [coerce_constrained, inside, listConstraints, bind_assoc]
      refine bind_coerce_array fun ws => ?_
      rw [checkAll_append]
      rcases passed_or_refused inner.listConstraints (.arr ws) with
        passed | ⟨before, refusing, after, message, around, passed, refused⟩
      · rw [checkAll_of_passed passed]
        exact checkConstraint_arr inner con ws
      · rw [around, checkAll_of_refused passed refused]
        rfl
  | .sum left right, element, list => by
      cases h : (sum left right).nullableInner? with
      | none =>
          rw [collectionElement?_sum h] at list
          cases list
      | some inner =>
          have smaller := sizeOf_lt_of_nullableInner? h
          have present : inner.meansNull (.arr items) = false := rfl
          rw [collectionElement?_nullable h] at list
          rw [coerce_nullable h, present, if_neg Bool.false_ne_true, listConstraints_nullable h]
          exact coerce_arr c items inner list

/-! ### The outcomes -/

/-- The violations of the items that are refused, in order and each seen from the list. -/
def itemViolations (c : Catalog) (element : Descriptor) (items : List Json) : List Violation :=
  (items.mapIdx fun i x => (coerce c element x).violations.map (·.nested (indexPath i))).flatten

/-- The list has the values that the items are read as, one for each. -/
def ItemsRead (c : Catalog) (element : Descriptor) (items ws : List Json) : Prop :=
  List.Forall₂ (fun x w => coerce c element x = .ok w) items ws

/-- What becomes of a list at a list type under wrappers. -/
inductive ReadsList (c : Catalog) (ty element : Descriptor) (items : List Json) : Checked Json → Prop
  /-- All items are read, and the list of their values satisfies the constraints around it. -/
  | read {ws : List Json} (values : ItemsRead c element items ws)
      (passed : ∀ con ∈ ty.listConstraints, con.check (.arr ws) = .ok ()) :
      ReadsList c ty element items (.ok (.arr ws))
  /-- Some item is refused; then the violations are those of all such items. -/
  | itemRefused {x : Json} {vs : List Violation} (mem : x ∈ items)
      (refused : coerce c element x = .error vs) :
      ReadsList c ty element items (.error (itemViolations c element items))
  /-- All items are read, and a constraint refuses the list of their values; the ones inside it do not. -/
  | listRefused {ws : List Json} {before after : List Constraint} {con : Constraint} {message : String}
      (values : ItemsRead c element items ws) (around : ty.listConstraints = before ++ con :: after)
      (passed : ∀ inside ∈ before, inside.check (.arr ws) = .ok ())
      (refused : con.check (.arr ws) = .error message) :
      ReadsList c ty element items (.error [.whole message])

theorem violations_coerce_array (c : Catalog) (element : Descriptor) (items : List Json) :
    (coerce c (.array element) (.arr items)).violations = itemViolations c element items := by
  rw [coerce_array, Checked.violations_map, Checked.violations_all, itemViolations, List.flatMap_def]
  refine congrArg List.flatten (List.ext_getElem? fun i => ?_)
  simp only [List.getElem?_map, List.getElem?_mapIdx, Option.map_map, Function.comp_def,
    Checked.violations_nest]

theorem coerce_array_of_itemsRead {element : Descriptor} {items ws : List Json}
    (values : ItemsRead c element items ws) :
    coerce c (.array element) (.arr items) = .ok (.arr ws) := by
  refine coerce_array_eq_ok_iff.2 ⟨items, ws, rfl, rfl, ?_⟩
  rw [← List.forall₂_eq_eq_eq, List.forall₂_map_left_iff, List.forall₂_map_right_iff]
  exact values

theorem coerce_array_of_refused {element : Descriptor} {items : List Json} {x : Json}
    {vs : List Violation} (mem : x ∈ items) (refused : coerce c element x = .error vs) :
    coerce c (.array element) (.arr items) = .error (itemViolations c element items) := by
  have named := violations_coerce_array c element items
  cases read : coerce c (.array element) (.arr items) with
  | error ws =>
      rw [read] at named
      exact congrArg Except.error named
  | ok w =>
      obtain ⟨y, succeeds⟩ := coerce_array_succeeds_iff.1 ⟨w, read⟩ x mem
      rw [refused] at succeeds
      cases succeeds

theorem itemsRead_or_refused (c : Catalog) (element : Descriptor) (items : List Json) :
    (∃ ws, ItemsRead c element items ws) ∨ ∃ x ∈ items, ∃ vs, coerce c element x = .error vs := by
  induction items with
  | nil => exact .inl ⟨[], .nil⟩
  | cons x rest ih =>
      cases read : coerce c element x with
      | error vs => exact .inr ⟨x, List.mem_cons_self, vs, read⟩
      | ok w =>
          rcases ih with ⟨ws, values⟩ | ⟨y, mem, vs, refused⟩
          · exact .inl ⟨w :: ws, .cons read values⟩
          · exact .inr ⟨y, List.mem_cons_of_mem x mem, vs, refused⟩

section outcomes
variable {ty element : Descriptor} {items : List Json}

theorem exists_readsList (c : Catalog) (ty element : Descriptor) (items : List Json) :
    ∃ r, ReadsList c ty element items r := by
  rcases itemsRead_or_refused c element items with ⟨ws, values⟩ | ⟨x, mem, vs, refused⟩
  · rcases passed_or_refused ty.listConstraints (.arr ws) with
      passed | ⟨before, con, after, message, around, passed, refused⟩
    · exact ⟨_, .read values passed⟩
    · exact ⟨_, .listRefused values around passed refused⟩
  · exact ⟨_, .itemRefused mem refused⟩

theorem ReadsList.coerce_eq {r : Checked Json} (list : ty.collectionElement? = some element)
    (outcome : ReadsList c ty element items r) : coerce c ty (.arr items) = r := by
  rw [coerce_arr c items ty list]
  cases outcome with
  | read values passed =>
      rw [coerce_array_of_itemsRead values]
      exact checkAll_of_passed passed
  | itemRefused mem refused =>
      rw [coerce_array_of_refused mem refused]
      rfl
  | listRefused values around passed refused =>
      rw [coerce_array_of_itemsRead values, around]
      exact checkAll_of_refused passed refused

theorem coerce_arr_eq_iff {r : Checked Json} (list : ty.collectionElement? = some element) :
    coerce c ty (.arr items) = r ↔ ReadsList c ty element items r := by
  constructor
  · rintro rfl
    obtain ⟨r, outcome⟩ := exists_readsList c ty element items
    rw [outcome.coerce_eq list]
    exact outcome
  · intro outcome
    exact outcome.coerce_eq list

end outcomes

/-- At a list type under wrappers, every raw value has a list of texts for candidate, and what this is read
as is its outcome. -/
theorem candidate_readsList (c : Catalog) {ty element : Descriptor}
    (list : ty.collectionElement? = some element) (raw : RawValue) (style : Style) :
    candidate raw ty style = .arr ((raw.items style).map .str) ∧
    ∀ r, coerce c ty (candidate raw ty style) = r ↔
      ReadsList c ty element ((raw.items style).map .str) r := by
  have texts : candidate raw ty style = .arr ((raw.items style).map .str) :=
    candidate_of_list list raw style
  refine ⟨texts, fun r => ?_⟩
  rw [texts]
  exact coerce_arr_eq_iff list

/-! ### Room numbers -/

/-- At least one room number where any is given, and two of them at most. -/
def rooms : Descriptor :=
  .constrained
    (.sum (.leaf .null) (.withDefault (.constrained (.array (.leaf .integer)) (.length 1 none)) (.arr [])))
    (.length 0 (some 2))

theorem candidate_readsList_rooms :
    rooms.collectionElement? = some (.leaf .integer) ∧
    candidate (.single ".7.first.8") rooms .label = .arr [.str "7", .str "first", .str "8"] ∧
    coerce ⟨[]⟩ rooms (candidate (.single ".7.first.8") rooms .label) =
      .error [⟨"[1]", "must be an integer"⟩] := by
  have list : rooms.collectionElement? = some (.leaf .integer) := rfl
  have items : RawValue.items .label (.single ".7.first.8") = ["7", "first", "8"] := by decide
  obtain ⟨texts, outcome⟩ := candidate_readsList ⟨[]⟩ list (.single ".7.first.8") .label
  rw [items] at texts outcome
  refine ⟨list, texts, (outcome _).2 ?_⟩
  have refused : coerce ⟨[]⟩ (.leaf .integer) (.str "first") = .error [.whole "must be an integer"] := by
    rw [coerce_leaf]
    rfl
  have named : itemViolations ⟨[]⟩ (.leaf .integer) [.str "7", .str "first", .str "8"] =
      [⟨"[1]", "must be an integer"⟩] := by
    simp only [itemViolations, List.mapIdx_cons, List.mapIdx_nil, coerce_leaf]
    rfl
  rw [← named]
  exact .itemRefused (List.mem_cons_of_mem _ List.mem_cons_self) refused

end Descriptor
end ApiContract
