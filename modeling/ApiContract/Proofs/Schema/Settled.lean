import ApiContract.Endpoint
import ApiContract.Proofs.Schema.Worklist

/-! # Computations that do not look at the document

A computation is settled if from every document it gives one and the same value and publishes one and
the same list of mentions, or fails as publishing these fails (`Compiler.Settled`).  What has been
published before decides whether it fails, and never what it gives.

Fragments are settled by the agreement of the walk with the worklist, and settled computations come one
after the other (`Settled.bind`), so the object of an endpoint is settled too: its mentions are those of
the types of its parameters, its body and its responses (`Endpoint.exists_settled_operation`). -/

namespace ApiContract
namespace Compiler

section settled
variable {α β : Type} {r : Registry} {c : Catalog} {m : Compiler α} {ms ns : List Mention}

/-- From any document a computation publishes some mentions and gives a value, or fails as publishing
them fails. -/
def Settled (r : Registry) (c : Catalog) (m : Compiler α) (ms : List Mention) (a : α) : Prop :=
  ∀ doc, Document.Agrees r c ms a doc (m.run.run doc)

theorem settled_pure (a : α) : Settled r c (pure a) [] a := fun _ => Document.agrees_done a

theorem Settled.bind {a : α} {b : β} {k : α → Compiler β} (first : Settled r c m ms a)
    (rest : Settled r c (k a) ns b) : Settled r c (m >>= k) (ms ++ ns) b :=
  fun doc => (first doc).bind (rest _)

theorem Settled.bind_pure {a : α} (h : Settled r c m ms a) (f : α → β) :
    Settled r c (m >>= fun a => pure (f a)) ms (f a) := by
  have whole := h.bind (k := fun a => pure (f a)) (settled_pure (f a))
  rwa [List.append_nil] at whole

theorem Settled.of_eq {a : α} (same : ns = ms) (h : Settled r c m ms a) : Settled r c m ns a :=
  same ▸ h

theorem exists_settled_mapM {ι : Type} {f : ι → Compiler α} {mentions : ι → List Mention} {xs : List ι}
    (each : ∀ x ∈ xs, ∃ a, Settled r c (f x) (mentions x) a) :
    ∃ as, Settled r c (xs.mapM f) (xs.flatMap mentions) as := by
  induction xs with
  | nil => exact ⟨[], settled_pure []⟩
  | cons x xs ih =>
      obtain ⟨a, first⟩ := each x List.mem_cons_self
      obtain ⟨as, rest⟩ := ih fun y hy => each y (List.mem_cons_of_mem _ hy)
      rw [List.mapM_cons, List.flatMap_cons]
      exact ⟨a :: as, first.bind (rest.bind_pure _)⟩

theorem exists_settled_mapM_option {ι : Type} {f : ι → Compiler α} {mentions : ι → List Mention}
    {o : Option ι} (each : ∀ x, ∃ a, Settled r c (f x) (mentions x) a) :
    ∃ found, Settled r c (o.mapM f) (o.toList.flatMap mentions) found := by
  cases o with
  | none => exact ⟨none, settled_pure none⟩
  | some x =>
      obtain ⟨a, settled⟩ := each x
      rw [Option.toList_some, List.flatMap_singleton]
      exact ⟨some a, settled.bind_pure some⟩

theorem Settled.run_eq_ok_iff {a b : α} {doc final : Document} (h : Settled r c m ms a) :
    m.run.run doc = (.ok b, final) ↔ doc.publish r c ms = .ok final ∧ b = a := by
  have run := (h doc).run_eq
  cases published : doc.publish r c ms with
  | ok next =>
      rw [published] at run
      rw [run]
      constructor
      · intro same
        cases same
        exact ⟨rfl, rfl⟩
      · rintro ⟨same, rfl⟩
        cases same
        rfl
  | error e =>
      rw [published] at run
      obtain ⟨next, ran⟩ := run
      rw [ran]
      constructor
      · intro same
        cases same
      · rintro ⟨same, -⟩
        cases same

/-- A fragment is settled, although a failure of it is taken back. -/
theorem settled_fragment (ty : Descriptor) :
    Settled r c (fragment r c ty) ty.mentions (ty.fragment r c) := by
  intro doc
  have walked := Document.agrees_walk r c ty doc
  rw [run_fragment_eq]
  cases ran : (walk r c ty).run.run doc with
  | mk result next =>
      rw [ran] at walked
      cases result with
      | ok fragment => exact walked
      | error e => exact walked

end settled
end Compiler

/-! ### The parts of an operation -/

/-- The types that an endpoint shows. -/
def Endpoint.types (e : Endpoint) : List Descriptor :=
  e.parameters.map Parameter.type ++ (e.body.map Body.type).toList ++
    e.responses.flatMap fun entry => entry.2.type.toList

section parts
open Compiler
variable (r : Registry) (c : Catalog)

theorem Parameter.exists_settled_operationPart (p : Parameter) :
    ∃ part, Settled r c (p.operationPart r c) p.type.mentions part :=
  ⟨_, (settled_fragment p.type).bind_pure _⟩

theorem Body.exists_settled_operationPart (b : Body) :
    ∃ part, Settled r c (b.operationPart r c) b.type.mentions part :=
  ⟨_, (settled_fragment b.type).bind_pure _⟩

theorem Response.exists_settled_operationPart (resp : Response) :
    ∃ part, Settled r c (resp.operationPart r c) (resp.type.toList.flatMap Descriptor.mentions)
      part := by
  unfold Response.operationPart
  cases resp.type with
  | none => exact ⟨_, settled_pure _⟩
  | some ty =>
      rw [Option.toList_some, List.flatMap_singleton]
      exact ⟨_, (settled_fragment ty).bind_pure _⟩

theorem Endpoint.exists_settled_responsesPart (responses : Responses) :
    ∃ part, Settled r c (responsesPart r c responses)
      (responses.flatMap fun entry => entry.2.type.toList.flatMap Descriptor.mentions) part := by
  have entry (x : Nat × Response) : ∃ part, Settled r c
      (do return (toString x.1, ← x.2.operationPart r c))
      (x.2.type.toList.flatMap Descriptor.mentions) part := by
    obtain ⟨part, settled⟩ := x.2.exists_settled_operationPart r c
    exact ⟨_, settled.bind_pure _⟩
  obtain ⟨members, settled⟩ := exists_settled_mapM fun x (_ : x ∈ responses) => entry x
  simp only [responsesPart, ← apply_ite (pure : Json → Compiler Json)]
  exact ⟨_, settled.bind_pure _⟩

namespace Endpoint

/-- The security requirement of an endpoint, one object for each scheme. -/
def securityRequirement (e : Endpoint) : Json :=
  .arr (e.security.map fun s => .object [(s.name, .arr [])])

/-- A value that is the object of an endpoint, whatever has been published before. -/
structure RendersAs (e : Endpoint) (object : Json) : Prop where
  settled : Settled r c (e.operation r c) (e.types.flatMap Descriptor.mentions) object
  isObject : object.isObject = true
  security : object.get? "security" =
    if e.security.isEmpty then none else some e.securityRequirement

/-- The object of an endpoint does not depend on the document; only whether there is one does. -/
theorem exists_rendersAs (e : Endpoint) : ∃ object, e.RendersAs r c object := by
  obtain ⟨parameters, settledParameters⟩ := exists_settled_mapM
    fun p (_ : p ∈ e.parameters) => p.exists_settled_operationPart r c
  obtain ⟨body, settledBody⟩ := exists_settled_mapM_option (o := e.body)
    fun b => b.exists_settled_operationPart r c
  obtain ⟨responses, settledResponses⟩ := exists_settled_responsesPart r c e.responses
  have mentions : e.types.flatMap Descriptor.mentions =
      e.parameters.flatMap (fun p => p.type.mentions) ++
        (e.body.toList.flatMap (fun b => b.type.mentions) ++
          e.responses.flatMap fun entry => entry.2.type.toList.flatMap Descriptor.mentions) := by
    cases hb : e.body <;>
      simp [types, hb, List.flatMap_append, List.flatMap_map, List.flatMap_assoc]
  refine ⟨_, .of_eq mentions (settledParameters.bind (settledBody.bind
    (settledResponses.bind_pure _))), rfl, ?_⟩
  show (Entries.ofList _).lookup "security" = _
  by_cases none : e.security.isEmpty = true
  · rw [if_pos none, if_pos none, List.append_nil]
    refine Entries.lookup_ofList_eq_none fun value mem => ?_
    simp [textMember] at mem
  · rw [if_neg none, if_neg none, Entries.lookup_ofList, List.reverse_append]
    exact Entries.lookup_cons _ _ _ _

end Endpoint
end parts
end ApiContract
