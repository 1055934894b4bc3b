import ApiContract.Proofs.ApiDocument.Collection
import ApiContract.Proofs.Schema.Compilation
import ApiContract.Proofs.Schema.Session
import Mathlib.Data.List.Nodup

/-! # Documents are built endpoint by endpoint

One compiler goes through all endpoints, and each finds what those before it have published.  In a
consistent document (`ApiDocument.Consistent`) none of this shows (`ApiDocument.build_modular`): the
order of the endpoints makes no difference, each operation is the one that a compiler of its own would
give, and the schemas are those of all types compiled together.

An operation does not depend on what is published (`Endpoint.RendersAs`), types can be compiled in any
order and with or without others (`Document.compile_congr`, `Document.exists_compile_of_subset`), and
endpoints with different keys whose schemes agree can be added in either order
(`ApiDocument.Collected.add_comm`). -/

namespace ApiContract

/-- The object of an endpoint by a compiler of its own. -/
def Endpoint.objectAlone (r : Registry) (c : Catalog) (e : Endpoint) : Except SetupError Json :=
  ((e.operation r c).run.run .empty).1

namespace ApiDocument

/-- A document whose endpoints do not contradict each other: no two of them stand at one path and
method, schemes with one name are described alike, and so are structs with one origin and one name. -/
structure Consistent (c : Catalog) (d : ApiDocument) : Prop where
  operations : (d.endpoints.map Endpoint.key).Nodup
  schemes : ∀ s ∈ d.schemes, ∀ t ∈ d.schemes, s.name = t.name → s.toJson = t.toJson
  structs : Document.Coherent c d.types

section modular
variable {openapi : String} {r : Registry} {c : Catalog} {d : ApiDocument} {es : List Endpoint}
  {v : Json}

theorem types_subset {e : Endpoint} (mem : e ∈ d.endpoints) : ∀ ty ∈ e.types, ty ∈ d.types :=
  fun _ hty => List.mem_flatMap.2 ⟨e, mem, hty⟩

theorem Consistent.perm (h : d.Consistent c) (perm : d.endpoints.Perm es) :
    { d with endpoints := es }.Consistent c where
  operations := (perm.map Endpoint.key).nodup_iff.1 h.operations
  schemes s hs t ht :=
    have mem {s : Scheme} : s ∈ es.flatMap Endpoint.security → s ∈ d.schemes :=
      (perm.flatMap_right Endpoint.security).mem_iff.2
    h.schemes s (mem hs) t (mem ht)
  structs := h.structs.mono fun _ => (perm.flatMap_right Endpoint.types).mem_iff.2

theorem Consistent.endpoint?_eq_some_iff (h : d.Consistent c) {path method : String} {e : Endpoint} :
    d.endpoint? path method = some e ↔ e ∈ d.endpoints ∧ e.key = (path, method) := by
  refine ⟨endpoint?_eq_some, fun ⟨mem, key⟩ => ?_⟩
  have present : (d.endpoint? path method).isSome :=
    List.find?_isSome.2 ⟨e, List.mem_reverse.2 mem, by simp [key]⟩
  obtain ⟨f, found⟩ := Option.isSome_iff_exists.1 present
  obtain ⟨mem', key'⟩ := endpoint?_eq_some found
  rw [found, List.inj_on_of_nodup_map h.operations mem' mem (key'.trans key.symm)]

theorem Consistent.addAll_perm (h : d.Consistent c) (object : Endpoint → Json)
    (perm : d.endpoints.Perm es) (col : Collected) :
    Collected.addAll object d.endpoints col = Collected.addAll object es col := by
  refine perm.foldl_eq' (fun e he f hf col => ?_) col
  by_cases same : e = f
  · rw [same]
  · refine Collected.add_comm _ _ (fun key => same ?_) fun s hs t ht => ?_
    · exact List.inj_on_of_nodup_map h.operations he hf key
    · exact h.schemes s (List.mem_flatMap.2 ⟨e, he, hs⟩) t (List.mem_flatMap.2 ⟨f, hf, ht⟩)

theorem Consistent.build_perm (h : d.Consistent c) (perm : d.endpoints.Perm es)
    (built : d.build openapi r c = .ok v) :
    { d with endpoints := es }.build openapi r c = .ok v := by
  choose object renders using Endpoint.exists_rendersAs r c
  obtain ⟨checked, schemas, compiled, rfl⟩ := (build_eq_ok_iff_compile renders).1 built
  refine (build_eq_ok_iff_compile renders).2 ⟨fun e he => checked e (perm.mem_iff.2 he), schemas, ?_, ?_⟩
  · exact Document.compile_congr (fun ty => (perm.flatMap_right Endpoint.types).mem_iff.symm) h.structs
      compiled
  · rw [h.addAll_perm object perm]
    rfl

/-- An endpoint of a document that is compiled can be compiled on its own, and gives the same
operation. -/
theorem Consistent.objectAlone_eq (h : d.Consistent c) {object : Endpoint → Json}
    (renders : ∀ e : Endpoint, e.RendersAs r c (object e)) {schemas : Document}
    (compiled : Document.compile r c d.types = .ok schemas) {e : Endpoint} (mem : e ∈ d.endpoints) :
    e.objectAlone r c = .ok (object e) := by
  obtain ⟨own, compiledOwn⟩ :=
    Document.exists_compile_of_subset (types_subset mem) h.structs compiled
  rw [Document.compile_eq_publish] at compiledOwn
  have ran := (renders e).settled.run_eq_ok_iff.2 ⟨compiledOwn, rfl⟩
  rw [Endpoint.objectAlone, ran]

/-- A consistent document is built in any order of its endpoints or in none, and is the same in each: it
is built if the endpoints pass their checks and their types can be compiled together.  At a path and
method stands the operation that the endpoint with these gives to a compiler of its own;
nothing else stands there, and no other path is listed.  The schemas are those of all types of
parameters, bodies and responses. -/
theorem build_modular (h : d.Consistent c) :
    ((∃ v, d.build openapi r c = .ok v) ↔ (∀ e ∈ d.endpoints, e.check = .ok ()) ∧
      ∃ schemas, Document.compile r c d.types = .ok schemas) ∧
    (∀ es, d.endpoints.Perm es → ∀ v, d.build openapi r c = .ok v ↔
      { d with endpoints := es }.build openapi r c = .ok v) ∧
    ∀ v, d.build openapi r c = .ok v →
      (∀ e ∈ d.endpoints, ∃ operation, e.objectAlone r c = .ok operation ∧
        operationAt? v e.path (Text.lowerAscii e.method) = some operation) ∧
      (∀ path method operation, operationAt? v path method = some operation →
        ∃ e ∈ d.endpoints, e.path = path ∧ Text.lowerAscii e.method = method) ∧
      (∀ path item, pathItemAt? v path = some item → ∃ e ∈ d.endpoints, e.path = path) ∧
      ∃ schemas, Document.compile r c d.types = .ok schemas ∧
        schemasOf? v = some schemas.toJson := by
  refine ⟨exists_build_iff, ?_, ?_⟩
  · intro es perm v
    exact ⟨h.build_perm perm, (h.perm perm).build_perm perm.symm⟩
  intro v built
  choose object renders using Endpoint.exists_rendersAs r c
  obtain ⟨schemas, compiled, shows⟩ := shows_of_build renders built
  refine ⟨?_, ?_, ?_, schemas, compiled, shows.schemasOf?_eq⟩
  · intro e he
    have owner : d.endpoint? e.path (Text.lowerAscii e.method) = some e :=
      h.endpoint?_eq_some_iff.2 ⟨he, rfl⟩
    refine ⟨object e, h.objectAlone_eq renders compiled he, ?_⟩
    rw [operationAt?_of_build renders built, owner, Option.map_some]
  · intro path method operation found
    rw [operationAt?_of_build renders built] at found
    obtain ⟨e, owner, -⟩ := Option.map_eq_some_iff.1 found
    obtain ⟨he, key⟩ := endpoint?_eq_some owner
    obtain ⟨own, lower⟩ := Prod.mk.inj key
    exact ⟨e, he, own, lower⟩
  · intro path item found
    rw [shows.pathItemAt?_eq, Option.map_eq_some_iff] at found
    obtain ⟨entry, held, -⟩ := found
    rcases (Collected.isSome_get?_paths_addAll path).1 (Option.isSome_of_eq_some held) with own | none
    · exact own
    · cases none

end modular

/-! ### A site with two operations on one path -/

open Compiler (site siteDocument pageBody publish_page)

/-- Lists the pages. -/
def listPages : Endpoint where
  method := "GET"
  path := "/pages"
  operationId := some "listPages"
  summary := none
  description := none
  tags := []
  parameters := []
  body := none
  security := []
  responses := [(200, ⟨"all pages", some (.array (.struct 0)), jsonContentType⟩)]
  deprecated := false

/-- Adds a page, for editors only. -/
def addPage : Endpoint where
  method := "Post"
  path := "/pages"
  operationId := none
  summary := some "Adds a page"
  description := none
  tags := []
  parameters := []
  body := some pageBody
  security := [.http "editor" "Bearer" none none none]
  responses := []
  deprecated := false

/-- The description of the site. -/
def siteApi : ApiDocument := ⟨"Site", "1", none, [], [listPages, addPage]⟩

theorem siteApi_consistent : siteApi.Consistent site where
  operations := by decide
  schemes s hs t ht _ := by
    have only : siteApi.schemes = [.http "editor" "Bearer" none none none] := rfl
    rw [only, List.mem_singleton] at hs ht
    rw [hs, ht]
  structs := Document.coherent_of_nodup site _ (by decide)

theorem compile_siteApi : Document.compile .builtin site siteApi.types = .ok siteDocument := by
  have mentions : siteApi.types.flatMap Descriptor.mentions =
      [.struct (some 0), .struct (some 0)] := rfl
  have found : site.resolve? (some 0) = some Compiler.page := rfl
  have taken : siteDocument.origin? Compiler.page.canonicalName = some Compiler.page.origin := rfl
  rw [Document.compile_eq_publish, mentions, publish_page _ rfl]
  show Document.publish .builtin site [.struct (some 0)] siteDocument = _
  simp only [Document.publish_struct, found, taken, if_true, Document.publish_nil]

theorem build_siteApi : ∃ v, siteApi.build "3.0.3" .builtin site = .ok v ∧
    { siteApi with endpoints := [addPage, listPages] }.build "3.0.3" .builtin site = .ok v ∧
    (∃ operation, listPages.objectAlone .builtin site = .ok operation ∧
      operationAt? v "/pages" "get" = some operation) ∧
    (∃ operation, addPage.objectAlone .builtin site = .ok operation ∧
      operationAt? v "/pages" "post" = some operation) ∧
    schemasOf? v = some siteDocument.toJson := by
  have checked : ∀ e ∈ siteApi.endpoints, e.check = .ok () := by
    intro e he
    simp only [siteApi, List.mem_cons, List.not_mem_nil, or_false] at he
    rcases he with rfl | rfl <;> rfl
  obtain ⟨succeeds, order, parts⟩ := build_modular siteApi_consistent
  obtain ⟨v, built⟩ := succeeds.2 ⟨checked, siteDocument, compile_siteApi⟩
  obtain ⟨operations, -, -, schemas, compiled, shown⟩ := parts v built
  obtain rfl := Except.ok.inj (compiled.symm.trans compile_siteApi)
  refine ⟨v, built, (order _ (List.Perm.swap _ _ _) v).1 built, ?_, ?_, shown⟩
  · exact operations listPages List.mem_cons_self
  · exact operations addPage (List.mem_cons_of_mem _ List.mem_cons_self)

end ApiDocument
end ApiContract
