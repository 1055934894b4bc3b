import ApiContract.Proofs.ApiDocument.Collection

/-! # The security that a document describes

An operation lists the names of the schemes that its endpoint asks, and every name that is listed has
an entry.  The entries are shared by all endpoints, and nobody compares the schemes that share one: an
entry describes the last scheme with its name, whether it is one of the operation's own schemes or not.

So the document describes the security that is enforced (`ApiDocument.DescribesSecurity`) if and only
if the last scheme with a name is described like every scheme of this name that an operation is
secured with (`ApiDocument.describesSecurity_iff`).  The last scheme may even be one of an endpoint whose
operation is not in the document (`ApiDocument.changedDesk_misdescribes`). -/

namespace ApiContract

/-- The names in the security list of an operation. -/
def securityNames (operation : Json) : List String :=
  match operation.get? "security" with
  | some (.arr requirements) => requirements.flatMap fun
    | .obj members => members.map Prod.fst
    | _ => []
  | _ => []

theorem Endpoint.RendersAs.securityNames_eq {r : Registry} {c : Catalog} {e : Endpoint} {object : Json}
    (h : e.RendersAs r c object) : securityNames object = e.security.map Scheme.name := by
  rw [securityNames, h.security]
  cases none : e.security.isEmpty with
  | true => rw [List.isEmpty_iff.1 none]; rfl
  | false =>
      show (e.security.map _).flatMap _ = _
      rw [List.flatMap_map]
      exact List.map_eq_flatMap.symm

namespace ApiDocument

/-- Every scheme that is asked for an operation is described under its name. -/
def DescribesSecurity (d : ApiDocument) (v : Json) : Prop :=
  ∀ path method operation, operationAt? v path method = some operation →
    ∃ e, d.endpoint? path method = some e ∧
      ∀ name ∈ securityNames operation, ∀ s ∈ e.security, s.name = name →
        schemeAt? v name = some s.toJson

section security
variable {openapi : String} {r : Registry} {c : Catalog} {d : ApiDocument} {v : Json}

theorem schemes_of_operation (h : d.build openapi r c = .ok v) {path method : String} {operation : Json}
    (found : operationAt? v path method = some operation) :
    ∃ e, d.endpoint? path method = some e ∧ securityNames operation = e.security.map Scheme.name ∧
      ∀ name ∈ securityNames operation,
        ∃ s, d.scheme? name = some s ∧ schemeAt? v name = some s.toJson := by
  choose object renders using Endpoint.exists_rendersAs r c
  rw [operationAt?_of_build renders h] at found
  obtain ⟨e, owner, rfl⟩ := Option.map_eq_some_iff.1 found
  refine ⟨e, owner, (renders e).securityNames_eq, fun name mem => ?_⟩
  rw [(renders e).securityNames_eq] at mem
  obtain ⟨s, hs, rfl⟩ := List.mem_map.1 mem
  obtain ⟨t, last⟩ := exists_scheme? (endpoint?_eq_some owner).1 hs
  refine ⟨t, last, ?_⟩
  rw [schemeAt?_of_build renders h, last, Option.map_some]

theorem describesSecurity_iff_last (h : d.build openapi r c = .ok v) :
    d.DescribesSecurity v ↔ ∀ path method e, d.endpoint? path method = some e →
      ∀ s ∈ e.security, ∀ t, d.scheme? s.name = some t → t.toJson = s.toJson := by
  choose object renders using Endpoint.exists_rendersAs r c
  constructor
  · intro describes path method e owner s hs t last
    have found : operationAt? v path method = some (object e) := by
      rw [operationAt?_of_build renders h, owner, Option.map_some]
    have listed : s.name ∈ securityNames (object e) := by
      rw [(renders e).securityNames_eq]
      exact List.mem_map_of_mem hs
    obtain ⟨e', owner', own⟩ := describes path method (object e) found
    obtain rfl := Option.some.inj (owner.symm.trans owner')
    have stored := own s.name listed s hs rfl
    rw [schemeAt?_of_build renders h, last, Option.map_some] at stored
    exact Option.some.inj stored
  · intro alike path method operation found
    obtain ⟨e, owner, -, entries⟩ := schemes_of_operation h found
    refine ⟨e, owner, ?_⟩
    rintro name listed s hs rfl
    obtain ⟨t, last, stored⟩ := entries s.name listed
    rw [stored, alike path method e owner s hs t last]

/-- A document that is built has an entry for every name that an operation lists, and the entry
describes the last scheme with this name.  These are the schemes that are enforced if and only if every
scheme of an endpoint whose operation is in the document is described like the last one of its name; so
they are if all schemes with one name are described alike. -/
theorem describesSecurity_iff (h : d.build openapi r c = .ok v) :
    (∀ path method operation, operationAt? v path method = some operation →
      ∃ e, d.endpoint? path method = some e ∧ securityNames operation = e.security.map Scheme.name ∧
        ∀ name ∈ securityNames operation,
          ∃ s, d.scheme? name = some s ∧ schemeAt? v name = some s.toJson) ∧
    (d.DescribesSecurity v ↔ ∀ path method e, d.endpoint? path method = some e →
      ∀ s ∈ e.security, ∀ t, d.scheme? s.name = some t → t.toJson = s.toJson) ∧
    ((∀ s ∈ d.schemes, ∀ t ∈ d.schemes, s.name = t.name → s.toJson = t.toJson) →
      d.DescribesSecurity v) := by
  refine ⟨?_, describesSecurity_iff_last h, ?_⟩
  · intro path method operation found
    exact schemes_of_operation h found
  · intro alike
    rw [describesSecurity_iff_last h]
    intro path method e owner s hs t last
    obtain ⟨later, name⟩ := scheme?_eq_some last
    have own : s ∈ d.schemes := List.mem_flatMap.2 ⟨e, (endpoint?_eq_some owner).1, hs⟩
    have other : t ∈ d.schemes := List.mem_flatMap.2 later
    exact alike t other s own name

end security

/-! ### A desk with two schemes of one name -/

/-- Reads a path, with some schemes. -/
def reading (path : String) (security : List Scheme) : Endpoint where
  method := "GET"
  path := path
  operationId := none
  summary := none
  description := none
  tags := []
  parameters := []
  body := none
  security := security
  responses := []
  deprecated := false

/-- A scheme of the authorization header, which is called like any other of them. -/
def auth (token : String) : Scheme := .http "auth" token none none none

/-- A description of some readings, each with its path and its schemes. -/
def desk (readings : List (String × List Scheme)) : ApiDocument :=
  ⟨"Desk", "1", none, [], readings.map fun x => reading x.1 x.2⟩

/-- Items and reports are read with tokens that differ in case only. -/
def alikeDesk : ApiDocument := desk [("/items", [auth "bearer"]), ("/reports", [auth "Bearer"])]

/-- Items are read with a bearer token.  Reports were once read with a password; the endpoint that has
taken their place is open. -/
def changedDesk : ApiDocument :=
  desk [("/items", [auth "bearer"]), ("/reports", [auth "basic"]), ("/reports", [])]

theorem exists_build_desk (readings : List (String × List Scheme)) :
    ∃ v, (desk readings).build "3.0.3" .builtin ⟨[]⟩ = .ok v := by
  have checked : ∀ e ∈ (desk readings).endpoints, e.check = .ok () := by
    intro e he
    obtain ⟨x, -, rfl⟩ := List.mem_map.1 he
    rfl
  have types : (desk readings).types = [] := by
    rw [ApiDocument.types, List.flatMap_eq_nil_iff]
    intro e he
    obtain ⟨x, -, rfl⟩ := List.mem_map.1 he
    rfl
  rw [exists_build_iff, types]
  exact ⟨checked, Document.empty, rfl⟩

theorem alikeDesk_describes : ∃ v, alikeDesk.build "3.0.3" .builtin ⟨[]⟩ = .ok v ∧
    alikeDesk.DescribesSecurity v := by
  obtain ⟨v, h⟩ : ∃ v, alikeDesk.build "3.0.3" .builtin ⟨[]⟩ = .ok v := exists_build_desk _
  obtain ⟨-, -, described⟩ := describesSecurity_iff h
  have schemes : alikeDesk.schemes = [auth "bearer", auth "Bearer"] := rfl
  have alike : (auth "Bearer").toJson = (auth "bearer").toJson := by
    have lower : Text.lowerAscii "Bearer" = Text.lowerAscii "bearer" := by decide
    simp only [auth, Scheme.http, Scheme.toJson, lower]
  refine ⟨v, h, described fun s hs t ht _ => ?_⟩
  simp only [schemes, List.mem_cons, List.not_mem_nil, or_false] at hs ht
  rcases hs with rfl | rfl <;> rcases ht with rfl | rfl
  · rfl
  · exact alike.symm
  · exact alike
  · rfl

/-- Items are said to be read with a password, like the reports of an endpoint whose operation is not in
the document. -/
theorem changedDesk_misdescribes : ∃ v, changedDesk.build "3.0.3" .builtin ⟨[]⟩ = .ok v ∧
    schemeAt? v "auth" = some (auth "basic").toJson ∧ ¬ changedDesk.DescribesSecurity v := by
  obtain ⟨v, h⟩ : ∃ v, changedDesk.build "3.0.3" .builtin ⟨[]⟩ = .ok v := exists_build_desk _
  choose object renders using Endpoint.exists_rendersAs .builtin ⟨[]⟩
  have stored : schemeAt? v "auth" = some (auth "basic").toJson := by
    rw [schemeAt?_of_build renders h]
    rfl
  have owner : changedDesk.endpoint? "/items" "get" = some (reading "/items" [auth "bearer"]) := rfl
  refine ⟨v, h, stored, fun describes => ?_⟩
  have found := operationAt?_of_build renders h "/items" "get"
  rw [owner, Option.map_some] at found
  obtain ⟨e, owner', own⟩ := describes _ _ _ found
  obtain rfl := Option.some.inj (owner.symm.trans owner')
  have listed := (renders (reading "/items" [auth "bearer"])).securityNames_eq
  have described := own "auth" (by rw [listed]; exact List.mem_singleton_self _) (auth "bearer")
    (List.mem_singleton_self _) rfl
  rw [stored] at described
  have token := congrArg (fun o : Option Json => o.bind (·.get? "scheme")) described
  have same : some (Json.str "basic") = some (Json.str "bearer") := token
  exact absurd (Json.str.inj (Option.some.inj same)) (by decide)

end ApiDocument
end ApiContract
