import ApiContract.Proofs.ApiDocument.Collection
import ApiContract.Proofs.Pointer
import ApiContract.Proofs.Schema.Session

/-! # References in a built document

Every reference in a document that is built is made from the name of a struct that its types reach, and
under this name stands the schema of the struct (`ApiDocument.exists_struct_of_hasRef`).

The reference is the name put behind a fixed text, and nothing in it is escaped.  Read as a pointer it
leads to the schema if the name is plain; a name with a slash or an escape in it is read as something
else, and the reference may lead nowhere (`ApiDocument.chart_misleads`).  With the name escaped it would
always lead to the schema. -/

namespace ApiContract

theorem Scheme.isObject_toJson (s : Scheme) : s.toJson.isObject = true := rfl

theorem Scheme.refsIn_toJson {P : String → Prop} (s : Scheme) : s.toJson.RefsIn P := by
  refine Json.refsIn_object (.append ?_ ?_)
  · split
    · exact Json.membersIn_named (by decide) (Json.refsIn_str _) <|
        Json.membersIn_named (by decide) (Json.refsIn_str _) <|
        Json.membersIn_named (by decide) (Json.refsIn_str _) Json.membersIn_nil
    · refine .append ?_ (Json.membersIn_option (by decide) fun format _ => Json.refsIn_str format)
      exact Json.membersIn_named (by decide) (Json.refsIn_str _) <|
        Json.membersIn_named (by decide) (Json.refsIn_str _) Json.membersIn_nil
  · exact Json.membersIn_option (by decide) fun text _ => Json.refsIn_str text

theorem Json.refsIn_ofDict {P : String → Prop} {entries : Dict Json}
    (h : ∀ name v, entries.get? name = some v → v.RefsIn P ∧ v.isObject = true) :
    (Json.ofDict entries).RefsIn P := by
  refine Json.refsIn_obj fun m hm => ?_
  obtain ⟨refs, object⟩ := h m.1 m.2 (Entries.lookup_of_mem entries.sorted hm)
  exact ⟨refs, fun _ => Json.str?_of_isObject object⟩

namespace ApiDocument

section references
variable {openapi : String} {r : Registry} {c : Catalog} {d : ApiDocument} {v : Json}
  (assembled : r.Assembled) (free : r.RefFree)
include assembled free

/-- The operation of an endpoint refers to schemas of every closed document that honours what the endpoint
mentions: compiled once more on such a document it is the same and changes nothing. -/
theorem covers_of_rendersAs {schemas : Document} {e : Endpoint} {object : Json}
    (renders : e.RendersAs r c object) (closed : schemas.Closed)
    (honoured : ∀ m ∈ e.types.flatMap Descriptor.mentions, Document.Honours r c schemas m) :
    schemas.Covers object := by
  have ran := renders.settled.run_eq_ok_iff.2 ⟨Document.publish_of_honours honoured, rfl⟩
  obtain ⟨-, -, covered⟩ := Compiler.sound_operation assembled free e schemas closed _ _ ran
  exact covered object rfl

omit assembled free

/-- A path may be called like a reference, and so may a method; what stands there is an object. -/
theorem covers_pathsJson {schemas : Document} {object : Endpoint → Json} {es : List Endpoint}
    (operations : ∀ e ∈ es, schemas.Covers (object e) ∧ (object e).isObject = true) :
    schemas.Covers (Collected.addAll object es .empty).pathsJson := by
  refine Json.refsIn_obj fun m hm => ?_
  obtain ⟨⟨path, item⟩, held, rfl⟩ := List.mem_map.1 hm
  refine ⟨Json.refsIn_ofDict fun method operation found => ?_, fun _ => rfl⟩
  have there : (Collected.addAll object es .empty).operation? path method = some operation := by
    rw [Collected.operation?, Dict.get?, Entries.lookup_of_mem (Dict.sorted _) held]
    exact found
  rw [Collected.operation?_addAll] at there
  rcases Option.or_eq_some_iff.1 there with own | ⟨-, none⟩
  · obtain ⟨e, owner, rfl⟩ := Option.map_eq_some_iff.1 own
    exact operations e (List.mem_reverse.1 (List.mem_of_find?_eq_some owner))
  · cases none

theorem covers_components {schemas : Document} {object : Endpoint → Json} {es : List Endpoint}
    (covered : ∀ name schema, schemas.schema? name = some schema →
      schemas.Covers schema ∧ schema.isObject = true) :
    schemas.Covers (components schemas (Collected.addAll object es .empty).schemes) := by
  have schemes : schemas.Covers (.ofDict (Collected.addAll object es .empty).schemes) := by
    refine Json.refsIn_ofDict fun name scheme held => ?_
    rw [Collected.get?_schemes_addAll] at held
    rcases Option.or_eq_some_iff.1 held with own | ⟨-, none⟩
    · obtain ⟨s, -, rfl⟩ := Option.map_eq_some_iff.1 own
      exact ⟨s.refsIn_toJson, s.isObject_toJson⟩
    · cases none
  refine Json.refsIn_object (.append ?_ ?_)
  · exact Json.membersIn_named (by decide) (Json.refsIn_ofDict covered) Json.membersIn_nil
  · exact Json.membersIn_ite Json.membersIn_nil
      (Json.membersIn_named (by decide) schemes Json.membersIn_nil)

theorem covers_assemble {col : Collected} {schemas : Document} (paths : schemas.Covers col.pathsJson)
    (shared : schemas.Covers (components schemas col.schemes)) :
    schemas.Covers (d.assemble openapi col schemas) := by
  have info : schemas.Covers d.info := by
    refine Json.refsIn_object (.append ?_ (Compiler.membersIn_textMember (by decide) _))
    exact Json.membersIn_named (by decide) (Json.refsIn_str _) <|
      Json.membersIn_named (by decide) (Json.refsIn_str _) Json.membersIn_nil
  have servers : schemas.Covers (.arr (d.servers.map fun url => .object [("url", .str url)])) := by
    refine Json.refsIn_arr fun server mem => ?_
    obtain ⟨url, -, rfl⟩ := List.mem_map.1 mem
    exact Json.refsIn_object
      (Json.membersIn_named (by decide) (Json.refsIn_str url) Json.membersIn_nil)
  refine Json.refsIn_object (.append (.append ?_ ?_) ?_)
  · exact Json.membersIn_named (by decide) (Json.refsIn_str _) <|
      Json.membersIn_named (by decide) info Json.membersIn_nil
  · exact Json.membersIn_ite Json.membersIn_nil
      (Json.membersIn_named (by decide) servers Json.membersIn_nil)
  · exact Json.membersIn_named (by decide) paths <|
      Json.membersIn_named (by decide) shared Json.membersIn_nil

include assembled free

theorem covers_of_build (h : d.build openapi r c = .ok v) {schemas : Document}
    (compiled : Document.compile r c d.types = .ok schemas) : schemas.Covers v := by
  choose object renders using Endpoint.exists_rendersAs r c
  obtain ⟨-, schemas', compiled', rfl⟩ := (build_eq_ok_iff_compile renders).1 h
  obtain rfl := Except.ok.inj (compiled'.symm.trans compiled)
  rw [Document.compile_eq_publish] at compiled
  have closed := Document.closed_empty.publish assembled free compiled
  refine covers_assemble (covers_pathsJson ?_) (covers_components ?_)
  · intro e he
    refine ⟨covers_of_rendersAs assembled free (renders e) closed fun m hm => ?_, (renders e).isObject⟩
    refine Document.publish_honours compiled m ?_
    rw [types, List.flatMap_assoc]
    exact List.mem_flatMap.2 ⟨e, he, hm⟩
  · intro name schema held
    obtain ⟨s, -, -, rfl⟩ := Document.exists_struct_of_schema? compiled held
    exact ⟨closed.covers name _ held, rfl⟩

/-- A reference in a built document is made from the name of a struct that its types reach, and under
this name stands the schema that has been compiled for the struct.  As a pointer the reference is read
with this name if and only if the name is plain; it then leads to the schema.  With the name escaped it
would lead there whatever the name. -/
theorem exists_struct_of_hasRef (h : d.build openapi r c = .ok v) {text : String}
    (reference : v.HasRef text) :
    ∃ s, Document.ReachedStruct c d.types s ∧ text = "#/components/schemas/" ++ s.canonicalName ∧
      (schemasOf? v).bind (·.get? s.canonicalName) = some (s.schema r c) ∧
      (Pointer.tokens? text = some ["components", "schemas", s.canonicalName] ↔
        Pointer.Plain s.canonicalName) ∧
      (Pointer.Plain s.canonicalName → Pointer.resolve? v text = some (s.schema r c)) ∧
      Pointer.resolve? v ("#/components/schemas/" ++ Pointer.escape s.canonicalName) =
        some (s.schema r c) := by
  choose object renders using Endpoint.exists_rendersAs r c
  obtain ⟨schemas, compiled, shows⟩ := shows_of_build renders h
  obtain ⟨name, mem, rfl⟩ := covers_of_build assembled free h compiled text reference
  rw [Document.compile_eq_publish] at compiled
  obtain ⟨schema, held⟩ := Document.mem_names_iff.1 mem
  obtain ⟨s, reached, rfl, rfl⟩ := Document.exists_struct_of_schema? compiled held
  have listed : schemas.toJson.get? s.canonicalName = some (s.schema r c) := held
  have shown := shows.schemasOf?_eq
  have leads {fragment : String}
      (read : Pointer.tokens? fragment = some ["components", "schemas", s.canonicalName]) :
      Pointer.resolve? v fragment = some (s.schema r c) := by
    obtain ⟨shared, components, schemasListed⟩ := Option.bind_eq_some_iff.1 shown
    exact Pointer.resolve?_of_tokens read components schemasListed listed
  refine ⟨s, reached, rfl, ?_, Pointer.tokens?_eq_some_iff, ?_, ?_⟩
  · rw [shown]
    exact listed
  · exact fun plain => leads (Pointer.tokens?_eq_some_iff.2 plain)
  · exact leads (Pointer.tokens?_escape _)

end references

/-! ### A chart of points -/

open Document (publish_struct publish_leaf publish_nil)

/-- A point, published under a name of one's choice. -/
def point (name : String) : StructDef := ⟨"geo::Point", some name, none, [⟨"x", .leaf .number, none⟩]⟩

/-- The catalog of points. -/
def geo (name : String) : Catalog := ⟨[point name]⟩

/-- Adds a point. -/
def addPoint : Endpoint where
  method := "POST"
  path := "/points"
  operationId := none
  summary := none
  description := none
  tags := []
  parameters := []
  body := some ⟨.struct 0, true, none, jsonContentType⟩
  security := []
  responses := []
  deprecated := false

/-- The description of the chart. -/
def chart : ApiDocument := ⟨"Chart", "1", none, [], [addPoint]⟩

/-- The object of the endpoint. -/
def addPointObject (name : String) : Json :=
  .object [("requestBody", .object [("required", .bool true),
      ("content", contentObject jsonContentType (schemaRef name))]),
    ("responses", .object [("default", .object [("description", .str "Default response")])])]

/-- The one schema of the chart. -/
def chartSchemas (name : String) : Document :=
  Document.empty.add name ⟨"geo::Point", (point name).schema .builtin (geo name)⟩

theorem run_addPoint (name : String) : (addPoint.operation .builtin (geo name)).run.run .empty =
    (.ok (addPointObject name), chartSchemas name) := by
  have published : Document.empty.publish .builtin (geo name) [.struct (some 0)] =
      .ok (chartSchemas name) := by
    have found : (geo name).resolve? (some 0) = some (point name) := rfl
    have free : Document.empty.origin? (point name).canonicalName = none := rfl
    have mentioned : (point name).mentions = [.leaf .number] := rfl
    have registered : Registry.builtin.contains .number = true := rfl
    simp only [publish_struct, found, free, mentioned, List.append_nil, publish_leaf, registered,
      if_true, publish_nil]
    rfl
  have body : (addPoint.body.mapM (Body.operationPart .builtin (geo name))).run.run .empty =
      (.ok (some (.object [("required", .bool true),
        ("content", contentObject jsonContentType (schemaRef name))])), chartSchemas name) := by
    show ((some <$> Body.operationPart .builtin (geo name)
      ⟨.struct 0, true, none, jsonContentType⟩ : Compiler (Option Json))).run.run .empty = _
    rw [Compiler.run_map, Body.operationPart, Compiler.run_bind, Compiler.run_fragment,
      Descriptor.mentions, published]
    rfl
  have parameters :
      addPoint.parameters.mapM (Parameter.operationPart .builtin (geo name)) = pure [] := rfl
  rw [Endpoint.operation, parameters, Compiler.run_bind, Compiler.run_pure]
  dsimp only
  rw [Compiler.run_bind, body]
  rfl

theorem build_chart (name : String) : chart.build "3.0.3" .builtin (geo name) = .ok (chart.assemble
    "3.0.3" (Collected.empty.add addPoint (addPointObject name)) (chartSchemas name)) := by
  refine build_eq_ok_iff.2 ⟨_, _, ?_, rfl⟩
  show (collect .builtin (geo name) [addPoint] .empty).run.run .empty = _
  rw [collect_cons rfl, Compiler.run_bind, run_addPoint]
  rfl

theorem hasRef_chart (name : String) : (chart.assemble "3.0.3" (Collected.empty.add addPoint
    (addPointObject name)) (chartSchemas name)).HasRef ("#/components/schemas/" ++ name) := by
  have member {pairs : List (String × Json)} {text : String} (key : String) {value : Json}
      (held : pairs.reverse.lookup key = some value) (inside : value.HasRef text) :
      (Json.object pairs).HasRef text := .member (Entries.mem_ofList_of_lookup held) inside
  refine member "paths" rfl (.member List.mem_cons_self (.member List.mem_cons_self ?_))
  refine member "requestBody" rfl (member "content" rfl (member jsonContentType rfl ?_))
  exact member "schema" rfl (.here (Entries.mem_ofList_of_lookup rfl))

theorem chart_leads : ∃ v, chart.build "3.0.3" .builtin (geo "Point") = .ok v ∧
    v.HasRef "#/components/schemas/Point" ∧
    Pointer.resolve? v "#/components/schemas/Point" =
      some ((point "Point").schema .builtin (geo "Point")) := by
  have reference := hasRef_chart "Point"
  obtain ⟨s, reached, text, -, -, leads, -⟩ :=
    exists_struct_of_hasRef .builtin Registry.builtin_refFree (build_chart "Point") reference
  obtain rfl := List.mem_singleton.1 reached.mem_structs
  exact ⟨_, build_chart "Point", reference, leads (by decide)⟩

/-- A name with a slash is read as two tokens, and the reference leads nowhere. -/
theorem chart_misleads : ∃ v, chart.build "3.0.3" .builtin (geo "geo/Point") = .ok v ∧
    v.HasRef "#/components/schemas/geo/Point" ∧
    Pointer.resolve? v "#/components/schemas/geo/Point" = none := by
  refine ⟨_, build_chart "geo/Point", hasRef_chart "geo/Point", ?_⟩
  have shows : Shows (chart.assemble "3.0.3" (Collected.empty.add addPoint
    (addPointObject "geo/Point")) (chartSchemas "geo/Point")) _ _ := shows_assemble _ _
  have tokens : Pointer.tokens? "#/components/schemas/geo/Point" =
      some ["components", "schemas", "geo", "Point"] := Pointer.tokens?_append "geo/Point"
  have schemas : (chartSchemas "geo/Point").toJson.get? "geo" = none := rfl
  obtain ⟨shared, components, listed⟩ := Option.bind_eq_some_iff.1 shows.schemasOf?_eq
  have missing : Pointer.child? (chartSchemas "geo/Point").toJson "geo" = none := schemas
  rw [Pointer.resolve?, tokens, Option.bind_some]
  simp only [List.foldlM_cons, Pointer.child?_of_get? components, Pointer.child?_of_get? listed,
    missing, Option.bind_eq_bind, Option.bind_some, Option.bind_none]

end ApiDocument
end ApiContract
