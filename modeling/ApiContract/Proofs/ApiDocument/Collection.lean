import ApiContract.ApiDocument
import ApiContract.Proofs.Schema.Settled
import Mathlib.Tactic.Choose

/-! # What is collected

Collecting goes over the endpoints once.  If it succeeds, every endpoint has passed its check, the
schemas are those compiled from all types, and the operations and schemes are those of adding one
endpoint after the other (`ApiDocument.run_collect_eq_ok_iff`).

What was added can be looked up: at a path and method stands the operation of the last endpoint with
these, and under a name the last scheme with this name.  In the document that is built one finds the
same (`ApiDocument.Shows`). -/

namespace ApiContract

/-- What tells the operations of a document apart. -/
def Endpoint.key (e : Endpoint) : String × String := (e.path, Text.lowerAscii e.method)

theorem Endpoint.key_eq_iff {e : Endpoint} {path method : String} :
    e.key = (path, method) ↔ path = e.path ∧ method = Text.lowerAscii e.method := by
  rw [key, Prod.mk.injEq, eq_comm, @eq_comm _ method]

namespace ApiDocument

/-- The types that a document shows. -/
def types (d : ApiDocument) : List Descriptor := d.endpoints.flatMap Endpoint.types

/-- The schemes of all endpoints, in order. -/
def schemes (d : ApiDocument) : List Scheme := d.endpoints.flatMap Endpoint.security

/-- The endpoint whose operation stands at a path and method. -/
def endpoint? (d : ApiDocument) (path method : String) : Option Endpoint :=
  d.endpoints.reverse.find? fun e => e.key = (path, method)

/-- The scheme that is listed under a name. -/
def scheme? (d : ApiDocument) (name : String) : Option Scheme :=
  d.schemes.reverse.find? fun s => s.name = name

theorem endpoint?_eq_some {d : ApiDocument} {path method : String} {e : Endpoint}
    (h : d.endpoint? path method = some e) : e ∈ d.endpoints ∧ e.key = (path, method) :=
  ⟨List.mem_reverse.1 (List.mem_of_find?_eq_some h), by simpa using List.find?_some h⟩

theorem exists_scheme? {d : ApiDocument} {e : Endpoint} {s : Scheme} (endpoint : e ∈ d.endpoints)
    (scheme : s ∈ e.security) : ∃ t, d.scheme? s.name = some t := by
  refine Option.isSome_iff_exists.1 (List.find?_isSome.2 ⟨s, ?_, by simp⟩)
  exact List.mem_reverse.2 (List.mem_flatMap.2 ⟨e, endpoint, scheme⟩)

theorem scheme?_eq_some {d : ApiDocument} {name : String} {s : Scheme} (h : d.scheme? name = some s) :
    (∃ e ∈ d.endpoints, s ∈ e.security) ∧ s.name = name :=
  ⟨List.mem_flatMap.1 (List.mem_reverse.1 (List.mem_of_find?_eq_some h)),
    by simpa using List.find?_some h⟩

/-! ### Adding endpoints -/

namespace Collected

/-- The operation at a path and method. -/
def operation? (col : Collected) (path method : String) : Option Json :=
  (col.paths.get? path).bind (·.get? method)

/-- Adds endpoints one after the other. -/
def addAll (object : Endpoint → Json) (es : List Endpoint) (col : Collected) : Collected :=
  es.foldl (fun col e => col.add e (object e)) col

section add
variable {object : Endpoint → Json} {es : List Endpoint} {col : Collected}

theorem get?_paths_add (e : Endpoint) (operation : Json) (path : String) :
    (col.add e operation).paths.get? path = if path = e.path then
      some (((col.paths.get? e.path).getD Dict.empty).insert (Text.lowerAscii e.method) operation)
      else col.paths.get? path :=
  Dict.get?_insert _ _ _ _

theorem operation?_add (e : Endpoint) (operation : Json) (path method : String) :
    (col.add e operation).operation? path method =
      if e.key = (path, method) then some operation else col.operation? path method := by
  rw [operation?, get?_paths_add]
  by_cases hp : path = e.path
  · subst hp
    rw [if_pos rfl, Option.bind_some, Dict.get?_insert]
    by_cases hm : method = Text.lowerAscii e.method
    · rw [if_pos hm, if_pos (Endpoint.key_eq_iff.2 ⟨rfl, hm⟩)]
    · rw [if_neg hm, if_neg fun same => hm (Endpoint.key_eq_iff.1 same).2, operation?]
      cases col.paths.get? e.path <;> rfl
  · rw [if_neg hp, if_neg fun same => hp (Endpoint.key_eq_iff.1 same).1, operation?]

theorem operation?_addAll (path method : String) : (addAll object es col).operation? path method =
    ((es.reverse.find? fun e => e.key = (path, method)).map object).or
      (col.operation? path method) := by
  induction es generalizing col with
  | nil => rfl
  | cons e es ih =>
      rw [addAll, List.foldl_cons, ← addAll, ih, operation?_add, List.reverse_cons,
        List.find?_append]
      cases List.find? _ es.reverse with
      | some later => rfl
      | none =>
          rw [Option.none_or, List.find?_singleton]
          by_cases own : e.key = (path, method) <;> simp [own]

theorem isSome_get?_paths_addAll (path : String) :
    ((addAll object es col).paths.get? path).isSome ↔
      (∃ e ∈ es, e.path = path) ∨ (col.paths.get? path).isSome := by
  induction es generalizing col with
  | nil => simp [addAll]
  | cons e es ih =>
      rw [addAll, List.foldl_cons, ← addAll, ih, get?_paths_add]
      by_cases own : path = e.path
      · simp [own]
      · simp [own, Ne.symm own]

theorem lookup_schemes (name : String) (schemes : List Scheme) :
    (schemes.map fun s => (s.name, s.toJson)).lookup name =
      (schemes.find? fun s => s.name = name).map Scheme.toJson := by
  induction schemes with
  | nil => rfl
  | cons s rest ih =>
      rw [List.map_cons, Entries.lookup_cons, ih, List.find?_cons]
      by_cases own : name = s.name
      · simp [own]
      · simp [own, Ne.symm own]

theorem get?_schemes_addAll (name : String) : (addAll object es col).schemes.get? name =
    (((es.flatMap Endpoint.security).reverse.find? fun s => s.name = name).map Scheme.toJson).or
      (col.schemes.get? name) := by
  induction es generalizing col with
  | nil => rfl
  | cons e es ih =>
      rw [addAll, List.foldl_cons, ← addAll, ih, add, Dict.get?_insertAll, ← List.map_reverse,
        lookup_schemes, List.flatMap_cons, List.reverse_append, List.find?_append]
      cases List.find? _ (List.flatMap Endpoint.security es).reverse <;> rfl

/-- Two endpoints can be added in either order if their operations stand at different places and their
schemes agree. -/
theorem add_comm {e f : Endpoint} (operation other : Json) (keys : e.key ≠ f.key)
    (schemes : ∀ s ∈ e.security, ∀ t ∈ f.security, s.name = t.name → s.toJson = t.toJson) :
    (col.add e operation).add f other = (col.add f other).add e operation := by
  have agree : ∀ k v w, (k, v) ∈ e.security.map (fun s => (s.name, s.toJson)) →
      (k, w) ∈ f.security.map (fun s => (s.name, s.toJson)) → v = w := by
    intro k v w hv hw
    obtain ⟨s, hs, same⟩ := List.mem_map.1 hv
    obtain ⟨t, ht, same'⟩ := List.mem_map.1 hw
    obtain ⟨name, rfl⟩ := Prod.mk.inj same
    obtain ⟨name', rfl⟩ := Prod.mk.inj same'
    exact schemes s hs t ht (name.trans name'.symm)
  have paths : ((col.add e operation).add f other).paths =
      ((col.add f other).add e operation).paths := by
    simp only [add, Dict.get?_insert]
    by_cases path : e.path = f.path
    · have method : Text.lowerAscii e.method ≠ Text.lowerAscii f.method := fun same =>
        keys (Prod.ext path same)
      simp only [path, if_true, Option.getD_some, Dict.insert_insert]
      rw [Dict.insert_comm _ method]
    · rw [if_neg (Ne.symm path), if_neg path, Dict.insert_comm _ path]
  rw [Collected.mk.injEq]
  exact ⟨paths, Dict.insertAll_comm col.schemes agree⟩

end add
end Collected

/-! ### Collecting -/

section collect
variable {r : Registry} {c : Catalog} {es : List Endpoint} {col : Collected}

theorem collect_cons {e : Endpoint} (checked : e.check = .ok ()) :
    collect r c (e :: es) col =
      e.operation r c >>= fun operation => collect r c es (col.add e operation) := by
  rw [collect, checked]

theorem check_of_collect {doc next : Document} {final : Collected}
    (ran : (collect r c es col).run.run doc = (.ok final, next)) : ∀ e ∈ es, e.check = .ok () := by
  induction es generalizing col doc with
  | nil => intro e he; cases he
  | cons e es ih =>
      cases checked : e.check with
      | error mistake =>
          rw [collect, checked] at ran
          cases ran
      | ok u =>
          rw [collect_cons checked, Compiler.run_bind] at ran
          split at ran
          · next operation middle _ =>
            intro f hf
            rcases List.mem_cons.1 hf with rfl | hf
            · exact checked
            · exact ih ran f hf
          · cases ran

variable {object : Endpoint → Json} (renders : ∀ e : Endpoint, e.RendersAs r c (object e))
include renders

/-- Endpoints that pass their checks are added one after the other, with objects that do not depend on
each other. -/
theorem settled_collect (checked : ∀ e ∈ es, e.check = .ok ()) : Compiler.Settled r c
    (collect r c es col) ((es.flatMap Endpoint.types).flatMap Descriptor.mentions)
    (col.addAll object es) := by
  induction es generalizing col with
  | nil => exact Compiler.settled_pure col
  | cons e es ih =>
      rw [collect_cons (checked e List.mem_cons_self), List.flatMap_cons, List.flatMap_append]
      exact (renders e).settled.bind (ih fun f hf => checked f (List.mem_cons_of_mem _ hf))

theorem run_collect_eq_ok_iff {final : Collected} {schemas : Document} :
    (collect r c es col).run.run .empty = (.ok final, schemas) ↔
      (∀ e ∈ es, e.check = .ok ()) ∧
      Document.compile r c (es.flatMap Endpoint.types) = .ok schemas ∧ final = col.addAll object es := by
  constructor
  · intro ran
    have checked := check_of_collect ran
    rw [(settled_collect renders checked).run_eq_ok_iff, ← Document.compile_eq_publish] at ran
    exact ⟨checked, ran⟩
  · rintro ⟨checked, compiled⟩
    rw [(settled_collect renders checked).run_eq_ok_iff, ← Document.compile_eq_publish]
    exact compiled

end collect

/-! ### The built document -/

/-- What a description has for a path. -/
def pathItemAt? (v : Json) (path : String) : Option Json :=
  (v.get? "paths").bind (·.get? path)

/-- The operation of a description at a path and method. -/
def operationAt? (v : Json) (path method : String) : Option Json :=
  (pathItemAt? v path).bind (·.get? method)

/-- The schemas of a description, by name. -/
def schemasOf? (v : Json) : Option Json := (v.get? "components").bind (·.get? "schemas")

/-- The scheme of a name in a description. -/
def schemeAt? (v : Json) (name : String) : Option Json :=
  (v.get? "components").bind fun shared => (shared.get? "securitySchemes").bind (·.get? name)

section build
variable {openapi : String} {r : Registry} {c : Catalog} {d : ApiDocument} {v : Json}

/-- What a built document shows of what was collected and compiled. -/
structure Shows (v : Json) (col : Collected) (schemas : Document) : Prop where
  paths : v.get? "paths" = some col.pathsJson
  components : v.get? "components" = some (components schemas col.schemes)

theorem get?_pathsJson (col : Collected) (path : String) :
    col.pathsJson.get? path = (col.paths.get? path).map Json.ofDict :=
  Entries.lookup_map Json.ofDict path col.paths.entries

theorem Shows.pathItemAt?_eq {col : Collected} {schemas : Document} (h : Shows v col schemas)
    (path : String) : pathItemAt? v path = (col.paths.get? path).map Json.ofDict := by
  rw [pathItemAt?, h.paths, Option.bind_some, get?_pathsJson]

theorem Shows.operationAt?_eq {col : Collected} {schemas : Document} (h : Shows v col schemas)
    (path method : String) : operationAt? v path method = col.operation? path method := by
  rw [operationAt?, h.pathItemAt?_eq, Collected.operation?]
  cases col.paths.get? path <;> rfl

theorem Shows.schemasOf?_eq {col : Collected} {schemas : Document} (h : Shows v col schemas) :
    schemasOf? v = some schemas.toJson := by
  rw [schemasOf?, h.components, Option.bind_some]
  show (Entries.ofList _).lookup _ = _
  rw [Entries.lookup_ofList]
  split <;> rfl

theorem Shows.schemeAt?_eq {col : Collected} {schemas : Document} (h : Shows v col schemas)
    (name : String) : schemeAt? v name = col.schemes.get? name := by
  rw [schemeAt?, h.components, Option.bind_some]
  show ((Entries.ofList _).lookup _).bind _ = _
  rw [Entries.lookup_ofList]
  split
  · next none =>
    have entries : col.schemes.entries = [] := List.isEmpty_iff.1 none
    rw [Dict.get?, entries]
    rfl
  · rfl

theorem shows_assemble (col : Collected) (schemas : Document) :
    Shows (d.assemble openapi col schemas) col schemas := by
  constructor
  all_goals
    show (Entries.ofList _).lookup _ = _
    rw [Entries.lookup_ofList, List.reverse_append]
    rfl

theorem build_eq_ok_iff : d.build openapi r c = .ok v ↔ ∃ col schemas,
    (collect r c d.endpoints .empty).run.run .empty = (.ok col, schemas) ∧
    v = d.assemble openapi col schemas := by
  rw [build]
  split
  · next mistake schemas failed =>
    rw [failed]
    constructor
    · intro h
      cases h
    · rintro ⟨col, schemas, ran, -⟩
      cases ran
  · next col schemas ran =>
    rw [ran]
    constructor
    · intro h
      cases h
      exact ⟨col, schemas, rfl, rfl⟩
    · rintro ⟨col, schemas, same, rfl⟩
      cases same
      rfl

variable {object : Endpoint → Json} (renders : ∀ e : Endpoint, e.RendersAs r c (object e))
include renders

/-- A document can be built if its endpoints pass their checks and its types can be compiled together.
It then consists of these schemas and of what the endpoints add to each other. -/
theorem build_eq_ok_iff_compile : d.build openapi r c = .ok v ↔
    (∀ e ∈ d.endpoints, e.check = .ok ()) ∧
    ∃ schemas, Document.compile r c d.types = .ok schemas ∧
      v = d.assemble openapi (Collected.addAll object d.endpoints .empty) schemas := by
  simp only [build_eq_ok_iff, run_collect_eq_ok_iff renders]
  constructor
  · rintro ⟨col, schemas, ⟨checked, compiled, rfl⟩, rfl⟩
    exact ⟨checked, schemas, compiled, rfl⟩
  · rintro ⟨checked, schemas, compiled, rfl⟩
    exact ⟨_, schemas, ⟨checked, compiled, rfl⟩, rfl⟩

theorem shows_of_build (h : d.build openapi r c = .ok v) : ∃ schemas,
    Document.compile r c d.types = .ok schemas ∧
    Shows v (Collected.addAll object d.endpoints .empty) schemas := by
  obtain ⟨-, schemas, compiled, rfl⟩ := (build_eq_ok_iff_compile renders).1 h
  exact ⟨schemas, compiled, shows_assemble _ _⟩

theorem operationAt?_of_build (h : d.build openapi r c = .ok v) (path method : String) :
    operationAt? v path method = (d.endpoint? path method).map object := by
  obtain ⟨schemas, -, shows⟩ := shows_of_build renders h
  rw [shows.operationAt?_eq, Collected.operation?_addAll]
  exact Option.or_none

theorem schemeAt?_of_build (h : d.build openapi r c = .ok v) (name : String) :
    schemeAt? v name = (d.scheme? name).map Scheme.toJson := by
  obtain ⟨schemas, -, shows⟩ := shows_of_build renders h
  rw [shows.schemeAt?_eq, Collected.get?_schemes_addAll]
  exact Option.or_none

omit renders in
theorem exists_build_iff : (∃ v, d.build openapi r c = .ok v) ↔
    (∀ e ∈ d.endpoints, e.check = .ok ()) ∧
    ∃ schemas, Document.compile r c d.types = .ok schemas := by
  choose object renders using Endpoint.exists_rendersAs r c
  simp only [build_eq_ok_iff_compile renders]
  constructor
  · rintro ⟨v, checked, schemas, compiled, -⟩
    exact ⟨checked, schemas, compiled⟩
  · rintro ⟨checked, schemas, compiled⟩
    exact ⟨_, checked, schemas, compiled, rfl⟩

end build
end ApiDocument
end ApiContract
