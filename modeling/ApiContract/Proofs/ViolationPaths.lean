import ApiContract.Proofs.Inhabitation
import ApiContract.Proofs.LeafStability
import ApiContract.Proofs.Trimming

/-! # Violation paths lead into the value

Coercion puts the path of a violation together from the inside out, one `joinPath` for each list, map or
object around it.  A path is meant as a list of segments, keys and indices, written one after the other
(`ValuePath.render`).  Where every key can stand in a path as it is, writing loses nothing
(`ValuePath.render_injective`), and joining a segment to a path is putting it in front of the list
(`ValuePath.joinPath_render`).

So the segments of a violation can be followed in the value that has been read, and they end at a part of
it, or at an object and a key that the object lacks, if that is what the violation says
(`Descriptor.violations_addressed`). -/

namespace ApiContract

namespace ValuePath

/-- A name that can stand in a path as it is. -/
def IsKey (name : String) : Prop := name ≠ "" ∧ '.' ∉ name.toList ∧ '[' ∉ name.toList

instance (name : String) : Decidable (IsKey name) := inferInstanceAs (Decidable (_ ∧ _ ∧ _))

/-- One step into a value: a member of an object or an item of a list. -/
inductive Segment
  | key (name : String) (plain : IsKey name)
  | index (i : Nat)

/-- Segments as they are written after others. -/
def continued : List Segment → String
  | [] => ""
  | .key name _ :: rest => "." ++ name ++ continued rest
  | .index i :: rest => "[" ++ toString i ++ "]" ++ continued rest

/-- Segments as a path: keys joined by dots, and indices in brackets. -/
def render : List Segment → String
  | .key name _ :: rest => name ++ continued rest
  | segments => continued segments

/-! ### Joining is putting in front -/

theorem render_key {name : String} (plain : IsKey name) : render [.key name plain] = name := by
  simp [render, continued]

theorem IsKey.exists_cons {name : String} (plain : IsKey name) :
    ∃ c cs, name.toList = c :: cs ∧ c ≠ '[' := by
  obtain ⟨nonempty, -, bracket⟩ := plain
  cases text : name.toList with
  | nil => exact absurd (String.toList_eq_nil_iff.1 text) nonempty
  | cons c cs =>
      rw [text] at bracket
      exact ⟨c, cs, rfl, (List.ne_of_not_mem_cons bracket).symm⟩

theorem render_singleton_ne_empty (s : Segment) : render [s] ≠ "" := by
  cases s with
  | key name plain => simpa [render, continued] using plain.1
  | index i => simp [render, continued]

theorem joinPath_render_eq_append {outer : String} (nonempty : outer ≠ "") (segments : List Segment) :
    joinPath outer (render segments) = outer ++ continued segments := by
  unfold joinPath
  rw [if_neg (mt String.isEmpty_iff.1 nonempty)]
  cases segments with
  | nil => simp [render, continued]
  | cons s rest =>
      cases s with
      | key name plain =>
          obtain ⟨c, cs, text, bracket⟩ := plain.exists_cons
          simp [render, continued, text, bracket, plain.1, String.append_assoc]
      | index i => simp [render, continued]

theorem joinPath_render (s : Segment) (rest : List Segment) :
    joinPath (render [s]) (render rest) = render (s :: rest) := by
  rw [joinPath_render_eq_append (render_singleton_ne_empty s)]
  cases s <;> simp [render, continued]

/-! ### Writing loses nothing -/

/-- Characters that occur in keys. -/
def inKey (c : Char) : Bool := c ≠ '.' && c ≠ '['

theorem IsKey.inKey {name : String} (plain : IsKey name) : ∀ c ∈ name.toList, inKey c = true := by
  obtain ⟨-, dot, bracket⟩ := plain
  intro c mem
  simp only [ValuePath.inKey, ne_eq, Bool.and_eq_true, decide_eq_true_eq]
  exact ⟨fun same => dot (same ▸ mem), fun same => bracket (same ▸ mem)⟩

theorem takeWhile_continued (rest : List Segment) : (continued rest).toList.takeWhile inKey = [] := by
  cases rest with
  | nil => rfl
  | cons s rest => cases s <;> simp [continued, inKey]

theorem key_append_inj {name other : String} (plain : IsKey name) (otherPlain : IsKey other)
    {rest others : List Segment} (h : name ++ continued rest = other ++ continued others) :
    name = other ∧ continued rest = continued others := by
  have texts := congrArg String.toList h
  rw [String.toList_append, String.toList_append] at texts
  obtain ⟨names, tails⟩ := Text.append_inj_of_stop plain.inKey otherPlain.inKey (takeWhile_continued rest)
    (takeWhile_continued others) texts
  exact ⟨String.toList_inj.1 names, String.toList_inj.1 tails⟩

theorem index_append_inj {i j : Nat} {rest others : String}
    (h : toString i ++ "]" ++ rest = toString j ++ "]" ++ others) : i = j ∧ rest = others := by
  have digits (n : Nat) : (toString n).toList = Nat.toDigits 10 n := String.toList_ofList
  have texts := congrArg String.toList h
  simp only [String.append_assoc, String.toList_append, digits] at texts
  obtain ⟨numbers, tails⟩ := Text.append_inj_of_stop (p := Char.isDigit)
    (fun c => Text.isDigit_of_mem_toDigits) (fun c => Text.isDigit_of_mem_toDigits) rfl rfl texts
  constructor
  · have read := congrArg Text.decimal? numbers
    rw [Text.decimal?_toDigits, Text.decimal?_toDigits] at read
    exact Option.some.inj read
  · exact String.toList_inj.1 (List.append_cancel_left tails)

/-- The first character tells a key from an index and both from nothing; then the key or the number is
told by where it ends. -/
theorem continued_injective : Function.Injective continued := by
  intro segments
  induction segments with
  | nil =>
      intro others h
      cases others with
      | nil => rfl
      | cons t others => cases t <;> simp [continued] at h
  | cons s rest ih =>
      intro others h
      cases others with
      | nil => cases s <;> simp [continued] at h
      | cons t others =>
          have first := congrArg (fun text => text.toList.head?) h
          cases s with
          | key name plain =>
              cases t with
              | key other otherPlain =>
                  simp only [continued, String.append_assoc, String.append_right_inj] at h
                  obtain ⟨rfl, tails⟩ := key_append_inj plain otherPlain h
                  rw [ih tails]
              | index j => simp [continued] at first
          | index i =>
              cases t with
              | key other otherPlain => simp [continued] at first
              | index j =>
                  simp only [continued, String.append_assoc, String.append_right_inj] at h
                  rw [← String.append_assoc, ← String.append_assoc] at h
                  obtain ⟨rfl, tails⟩ := index_append_inj h
                  rw [ih tails]

/-- Distinct lists of segments are distinct paths.  They are compared behind another segment, where also a key at
the start has its dot. -/
theorem render_injective : Function.Injective render := by
  intro segments others h
  have joined := congrArg (joinPath "[0]") h
  rw [joinPath_render_eq_append (by decide), joinPath_render_eq_append (by decide),
    String.append_right_inj] at joined
  exact continued_injective joined

end ValuePath

open ValuePath

namespace Json

/-! ### Following a path -/

/-- The part of a value that a segment leads to. -/
def child? (v : Json) : Segment → Option Json
  | .key name _ => v.get? name
  | .index i => match v with
    | .arr items => items[i]?
    | _ => none

/-- The part of a value that segments lead to, one after the other. -/
def at? (v : Json) (segments : List Segment) : Option Json := segments.foldlM child? v

theorem at?_cons {v part : Json} {s : Segment} (step : v.child? s = some part)
    (rest : List Segment) : v.at? (s :: rest) = part.at? rest := by
  rw [at?, List.foldlM_cons, step]
  rfl

/-- Values in which every key can stand in a path.  As in all values, objects list their members by
increasing key. -/
inductive PlainKeys : Json → Prop
  | null : PlainKeys .null
  | bool (b : Bool) : PlainKeys (.bool b)
  | num (n : Number) : PlainKeys (.num n)
  | str (s : String) : PlainKeys (.str s)
  | arr {items : List Json} (parts : ∀ x ∈ items, PlainKeys x) : PlainKeys (.arr items)
  | obj {members : List (String × Json)} (sorted : Entries.Sorted members)
    (plain : ∀ m ∈ members, IsKey m.1) (parts : ∀ m ∈ members, PlainKeys m.2) :
    PlainKeys (.obj members)

end Json

namespace Violation

/-- Where something can be wrong with a value: at a part of it, or at a key that an object in it lacks
and must have. -/
inductive Locus (v : Json) (message : String) : List Segment → Prop
  | part {segments : List Segment} {x : Json} (found : v.at? segments = some x) :
    Locus v message segments
  | missing {outer : List Segment} {name : String} {plain : IsKey name}
    {members : List (String × Json)} (text : message = "is missing")
    (object : v.at? outer = some (.obj members)) (absent : members.lookup name = none) :
    Locus v message (outer ++ [.key name plain])

/-- A violation whose path leads to where something can be wrong with a value. -/
def Within (w : Violation) (v : Json) : Prop :=
  ∃ segments, render segments = w.path ∧ Locus v w.message segments

theorem within_whole (message : String) (v : Json) : (whole message).Within v :=
  ⟨[], rfl, .part rfl⟩

theorem within_key {members : List (String × Json)} {name : String} {x : Json} (plain : IsKey name)
    (found : members.lookup name = some x) (message : String) :
    Within ⟨name, message⟩ (.obj members) := by
  have step : (Json.obj members).child? (.key name plain) = some x := found
  exact ⟨[.key name plain], render_key plain, .part (Json.at?_cons step [])⟩

theorem within_missing {members : List (String × Json)} {name : String} (plain : IsKey name)
    (absent : members.lookup name = none) : Within ⟨name, "is missing"⟩ (.obj members) := by
  refine ⟨[] ++ [.key name plain], render_key plain, ?_⟩
  exact .missing rfl rfl absent

/-- What is wrong with a part is wrong with the whole, a segment further down. -/
theorem Within.nested {w : Violation} {v part : Json} {s : Segment} (step : v.child? s = some part)
    (h : w.Within part) : (w.nested (render [s])).Within v := by
  obtain ⟨segments, path, locus⟩ := h
  refine ⟨s :: segments, ?_, ?_⟩
  · rw [← joinPath_render, path]
    rfl
  · cases locus with
    | part found => exact .part ((Json.at?_cons step _).trans found)
    | @missing outer name plain members text object absent =>
        have further : v.at? (s :: outer) = some (.obj members) := (Json.at?_cons step _).trans object
        rw [← List.cons_append]
        exact .missing text further absent

end Violation

namespace Descriptor
open Violation

/-- Types in which the names of all fields can stand in a path. -/
def PlainNames (c : Catalog) (ty : Descriptor) : Prop :=
  ∀ s fields, ty.Reaches c s → s.fieldsOf? c = some fields → ∀ f ∈ fields, IsKey f.name

theorem PlainNames.part {c : Catalog} {ty part : Descriptor} (h : ty.PlainNames c)
    (hp : part ∈ ty.parts c) : part.PlainNames c :=
  fun s fields reached => h s fields (reached.head hp)

/-! ### One form of value at a time -/

section forms
variable {c : Catalog} {w : Violation}

theorem eq_whole_of_mem_violations_checkConstraint {inner : Descriptor} {con : Constraint} {v : Json}
    (h : w ∈ (inner.checkConstraint con v).violations) : ∃ message, w = .whole message := by
  unfold checkConstraint at h
  split at h
  · cases h
  · split at h
    · cases h
    · next message _ => exact ⟨message, List.mem_singleton.1 h⟩

/-- A field is wrong below its name, or it is not there. -/
theorem mem_violations_fieldResult {f : Field} {part : Option (Checked Json)}
    (h : w ∈ (fieldResult f part).violations) :
    (∃ result, part = some result ∧ ∃ u ∈ result.violations, u.nested f.name = w) ∨
      (part = none ∧ w = ⟨f.name, "is missing"⟩) := by
  cases part with
  | some result =>
      simp only [fieldResult, Checked.violations_map, Checked.violations_nest, List.mem_map] at h
      exact .inl ⟨result, rfl, h⟩
  | none =>
      simp only [fieldResult] at h
      split at h
      · cases h
      · split at h
        · exact .inr ⟨rfl, List.mem_singleton.1 h⟩
        · cases h

/-- A member of a map is wrong at its key, for the sake of the key, or below it. -/
theorem mem_violations_entryResult {key : String} {keyResult valueResult : Checked Json}
    (h : w ∈ (entryResult key keyResult valueResult).violations) :
    (∃ message, w = ⟨key, message⟩) ∨ ∃ u ∈ valueResult.violations, u.nested key = w := by
  unfold entryResult at h
  split at h
  · obtain ⟨u, -, rfl⟩ := List.mem_map.1 h
    exact .inl ⟨_, rfl⟩
  · rw [Checked.violations_map, Checked.violations_nest] at h
    exact .inr (List.mem_map.1 h)
  · rw [Checked.violations_map, Checked.violations_nest] at h
    exact .inr (List.mem_map.1 h)

theorem within_of_mem_violations_fail {message : String} {v : Json}
    (h : w ∈ (Checked.fail message : Checked Json).violations) : w.Within v := by
  rw [List.mem_singleton.1 h]
  exact within_whole message v

theorem within_of_mem_violations_array {element : Descriptor} {v : Json}
    (h : w ∈ (coerce c (.array element) v).violations)
    (parts : ∀ items, v = .arr items → ∀ x ∈ items, ∀ u ∈ (coerce c element x).violations,
      u.Within x) : w.Within v := by
  cases v with
  | arr items =>
      rw [coerce_array, Checked.violations_map, Checked.violations_all] at h
      obtain ⟨result, listed, mem⟩ := List.mem_flatMap.1 h
      obtain ⟨i, bound, rfl⟩ := List.mem_mapIdx.1 listed
      rw [Checked.violations_nest] at mem
      obtain ⟨u, hu, rfl⟩ := List.mem_map.1 mem
      have step : (Json.arr items).child? (.index i) = some items[i] := List.getElem?_eq_getElem bound
      have path : indexPath i = render [.index i] := by simp [render, continued, indexPath]
      rw [path]
      exact (parts items rfl _ (List.getElem_mem bound) u hu).nested step
  | _ =>
      rw [coerce] at h
      · exact within_of_mem_violations_fail h
      all_goals simp

theorem within_of_mem_violations_map {key value : Descriptor} {v : Json} (keys : v.PlainKeys)
    (h : w ∈ (coerce c (.map key value) v).violations)
    (parts : ∀ members, v = .obj members → ∀ name x, (name, x) ∈ members →
      ∀ u ∈ (coerce c value x).violations, u.Within x) : w.Within v := by
  cases keys with
  | @obj members sorted plain _ =>
      rw [coerce_map, Checked.violations_map, Checked.violations_all] at h
      obtain ⟨result, listed, mem⟩ := List.mem_flatMap.1 h
      obtain ⟨⟨name, x⟩, member, rfl⟩ := List.mem_map.1 listed
      have found := Entries.lookup_of_mem sorted member
      rcases mem_violations_entryResult mem with ⟨message, rfl⟩ | ⟨u, hu, rfl⟩
      · exact within_key (plain _ member) found message
      · have step : (Json.obj members).child? (.key name (plain _ member)) = some x := found
        rw [← render_key (plain _ member)]
        exact (parts members rfl name x member u hu).nested step
  | _ =>
      rw [coerce] at h
      · exact within_of_mem_violations_fail h
      all_goals simp

theorem within_of_mem_violations_fields {fields : List Field} {v : Json}
    (names : ∀ f ∈ fields, IsKey f.name) (h : w ∈ (coerceFields c fields v).violations)
    (parts : ∀ members, v = .obj members → ∀ f ∈ fields, ∀ x, (f.name, x) ∈ members →
      ∀ u ∈ (coerce c f.type x).violations, u.Within x) : w.Within v := by
  cases v with
  | obj members =>
      rw [coerceFields_obj, Checked.violations_map, Checked.violations_all] at h
      obtain ⟨result, listed, mem⟩ := List.mem_flatMap.1 h
      obtain ⟨f, hf, rfl⟩ := List.mem_map.1 listed
      rcases mem_violations_fieldResult mem with ⟨result, read, u, hu, rfl⟩ | ⟨absent, rfl⟩
      · obtain ⟨x, found, rfl⟩ := Option.map_eq_some_iff.1 read
        have step : (Json.obj members).child? (.key f.name (names f hf)) = some x := found
        rw [← render_key (names f hf)]
        exact (parts members rfl f hf x (Entries.mem_of_lookup found) u hu).nested step
      · exact within_missing (names f hf) (Option.map_eq_none_iff.1 absent)
  | _ =>
      rw [coerceFields] at h
      · exact within_of_mem_violations_fail h
      all_goals simp

end forms

/-! ### All types -/

/-- What coercion finds wrong is wrong within the value.  The induction goes along the recursion of
coercion: the parts of a list or object are smaller than the value, and under a wrapper the type is. -/
theorem within_of_mem_violations {c : Catalog} {ty : Descriptor} (names : ty.PlainNames c) {v : Json}
    (keys : v.PlainKeys) {w : Violation} (h : w ∈ (coerce c ty v).violations) : w.Within v := by
  have member {members : List (String × Json)} {name : String} {x : Json} (same : v = .obj members)
      (mem : (name, x) ∈ members) : sizeOf x < sizeOf v ∧ x.PlainKeys := by
    subst same
    cases keys with
    | obj _ _ parts => exact ⟨Json.sizeOf_member_lt mem, parts _ mem⟩
  have fields {fields : List Field} (declares : ty.fieldsOf? c = some fields)
      (h : w ∈ (coerceFields c fields v).violations) : w.Within v := by
    refine within_of_mem_violations_fields (names ty fields .refl declares) h ?_
    intro members same f hf x mem u hu
    obtain ⟨smaller, plain⟩ := member same mem
    exact within_of_mem_violations (names.part (type_mem_parts declares hf)) plain hu
  match ty with
  | .leaf l =>
      rw [coerce_leaf] at h
      cases read : l.read v with
      | ok x => rw [read] at h; cases h
      | error message =>
          rw [read] at h
          exact within_of_mem_violations_fail h
  | .optional inner =>
      have part := names.part (List.mem_singleton_self inner)
      rw [coerce_optional] at h
      split at h
      · cases h
      · exact within_of_mem_violations part keys h
  | .withDefault inner fallback =>
      have part := names.part (List.mem_singleton_self inner)
      rw [coerce_withDefault] at h
      split at h
      · cases h
      · exact within_of_mem_violations part keys h
  | .constrained inner con =>
      have part := names.part (List.mem_singleton_self inner)
      rw [coerce_constrained] at h
      cases read : coerce c inner v with
      | error vs =>
          rw [read] at h
          exact within_of_mem_violations part keys (by rw [read]; exact h)
      | ok x =>
          rw [read] at h
          obtain ⟨message, rfl⟩ := eq_whole_of_mem_violations_checkConstraint h
          exact within_whole message v
  | .sum left right =>
      cases hn : (sum left right).nullableInner? with
      | some inner =>
          have part : inner.PlainNames c := names.part (by rw [parts_nullable hn]; simp)
          have smaller := sizeOf_lt_of_nullableInner? hn
          rw [coerce_nullable hn] at h
          split at h
          · cases h
          · exact within_of_mem_violations part keys h
      | none =>
          rw [coerce_sum hn] at h
          split at h
          · cases h
          · split at h
            · cases h
            · exact within_of_mem_violations_fail h
  | .struct id =>
      rw [coerce_struct] at h
      split at h
      · next d found => exact fields (fieldsOf?_of_structOf? found) h
      · exact within_of_mem_violations_fail h
  | .recursive id =>
      rw [coerce_recursive] at h
      split at h
      · next d found => exact fields (fieldsOf?_of_structOf? found) h
      · exact within_of_mem_violations_fail h
  | .array element =>
      have part := names.part (List.mem_singleton_self element)
      refine within_of_mem_violations_array h fun items same x mem u hu => ?_
      subst same
      have smaller := Json.sizeOf_item_lt mem
      cases keys with
      | arr parts => exact within_of_mem_violations part (parts x mem) hu
  | .map key value =>
      have part := names.part (List.mem_singleton_self value)
      refine within_of_mem_violations_map keys h fun members same name x mem u hu => ?_
      obtain ⟨smaller, plain⟩ := member same mem
      exact within_of_mem_violations part plain hu
  | .record list =>
      rw [coerce_record] at h
      exact fields rfl h
termination_by (sizeOf v, sizeOf ty)

/-- Every path in a failed reading is that of one list of segments and no other, and it leads to a part
of the value, or to a key that an object in it lacks. -/
theorem violations_addressed {c : Catalog} {ty : Descriptor} (names : ty.PlainNames c) {v : Json}
    (keys : v.PlainKeys) {violations : List Violation} (failed : ty.coerce c v = .error violations) :
    Function.Injective render ∧ ∀ w ∈ violations, ∃ segments,
      (∀ other, render other = w.path ↔ other = segments) ∧ Locus v w.message segments := by
  refine ⟨render_injective, fun w mem => ?_⟩
  have found : w ∈ (ty.coerce c v).violations := by
    rw [failed]
    exact mem
  obtain ⟨segments, path, locus⟩ := within_of_mem_violations names keys found
  refine ⟨segments, fun other => ?_, locus⟩
  rw [← path]
  exact render_injective.eq_iff

/-! ### A stay with a wrong guest -/

theorem stay_plainNames : (struct 0).PlainNames house := by
  intro s fields reached declares
  have known := mem_stayTypes reached
  have same : fields = stay.fields := by
    simp only [stayTypes, stay, List.map_cons, List.map_nil, List.cons_append, List.nil_append,
      List.mem_cons, List.not_mem_nil, or_false] at known
    rcases known with rfl | rfl | rfl | rfl | rfl | rfl | rfl | rfl | rfl | rfl | rfl <;>
      cases declares <;> rfl
  rw [same]
  decide

/-- A stay without an identifier. -/
def unnamedStay : Json := .obj [("from", .str "2024-03-01"), ("guests", .arr [.str "Ada"])]

/-- A stay whose second guest is a list, before a stay without an identifier. -/
def wrongStay : Json := .obj [("from", .str "2024-02-29"), ("guests", .arr [.str "Ada", .arr []]),
  ("id", .str "0123abcd-89ab-cdef-0123-456789abcdef"), ("next", unnamedStay)]

theorem wrongStay_plainKeys : wrongStay.PlainKeys := by
  have unnamed : unnamedStay.PlainKeys := by
    refine .obj ?_ (by decide) ?_
    · unfold Entries.Sorted
      decide
    · simp only [List.forall_mem_cons]
      refine ⟨.str _, .arr ?_, by simp⟩
      simp only [List.forall_mem_cons]
      exact ⟨.str _, by simp⟩
  refine .obj ?_ (by decide) ?_
  · unfold Entries.Sorted
    decide
  · simp only [List.forall_mem_cons]
    refine ⟨.str _, .arr ?_, .str _, unnamed, by simp⟩
    simp only [List.forall_mem_cons]
    exact ⟨.str _, .arr (by simp), by simp⟩

theorem coerce_wrongStay : (struct 0).coerce house wrongStay =
    .error [⟨"guests[1]", "must be a string"⟩, ⟨"next.id", "is missing"⟩] := by
  have found : house.find? 0 = some stay := rfl
  have back : house.resolve? (some 0) = some stay := rfl
  have first : Leaf.date.read (.str "2024-02-29") = .ok (.str "2024-02-29") := rfl
  have second : Leaf.date.read (.str "2024-03-01") = .ok (.str "2024-03-01") := rfl
  have id : Leaf.uuid.read (.str "0123abcd-89ab-cdef-0123-456789abcdef") =
      .ok (.str "0123abcd-89ab-cdef-0123-456789abcdef") := rfl
  have ada : coerce house (.constrained (.array (.leaf .string)) (.length 1 none))
      (.arr [.str "Ada"]) = .ok (.arr [.str "Ada"]) := by
    simp only [coerce_constrained, coerce_array, coerce_leaf, List.mapIdx_cons, List.mapIdx_nil]
    rfl
  have guests : coerce house (.constrained (.array (.leaf .string)) (.length 1 none))
      (.arr [.str "Ada", .arr []]) = .error [⟨"[1]", "must be a string"⟩] := by
    simp only [coerce_constrained, coerce_array, coerce_leaf, List.mapIdx_cons, List.mapIdx_nil]
    rfl
  have next : coerce house (.optional (.recursive (some 0))) unnamedStay =
      .error [⟨"id", "is missing"⟩] := by
    simp only [coerce_optional, coerce_recursive, unnamedStay, back, stay, coerceFields_obj,
      Entries.lookup_cons, List.lookup_nil, List.map_cons, List.map_nil, String.reduceEq, if_true,
      if_false, Option.map_some, Option.map_none, coerce_leaf, second, ada]
    rfl
  simp only [coerce_struct, found, wrongStay, stay, coerceFields_obj, Entries.lookup_cons,
    List.lookup_nil, List.map_cons, List.map_nil, String.reduceEq, if_true, if_false, Option.map_some,
    Option.map_none, coerce_leaf, first, id, guests, next]
  rfl

theorem violations_addressed_wrongStay : Function.Injective render ∧
    ∀ w ∈ [(⟨"guests[1]", "must be a string"⟩ : Violation), ⟨"next.id", "is missing"⟩], ∃ segments,
      (∀ other, render other = w.path ↔ other = segments) ∧ Locus wrongStay w.message segments :=
  violations_addressed stay_plainNames wrongStay_plainKeys coerce_wrongStay

end Descriptor
end ApiContract
