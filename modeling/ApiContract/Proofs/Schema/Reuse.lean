import ApiContract.Proofs.Schema.Remnants

/-! # Structs that have been published already

A compiler does not write a struct again whose name its document has.  Nobody can tell from the
fragments: what is compiled for a type is the same from every document, and structs occur in it by their
names alone (`Descriptor.fragment_of_sameNames`).

Names stay with the origins that have taken them, whatever is called and whether it fails
(`Compiler.session_keeps_origin`).  So all that a fragment relies on can be relied on later, and to ask
for it again gives the same and publishes nothing (`Compiler.fragment_again`). -/

namespace ApiContract

/-- A catalog whose structs have the same names. -/
def Catalog.SameNames (c d : Catalog) : Prop :=
  ∀ id, (c.find? id).map StructDef.canonicalName = (d.find? id).map StructDef.canonicalName

namespace Descriptor

/-! ### Names alone -/

section names
variable {r : Registry} {c d : Catalog}

theorem refTo_eq_of_name_eq {first second : Option StructDef}
    (same : first.map StructDef.canonicalName = second.map StructDef.canonicalName) :
    refTo first = refTo second := by
  have named (o : Option StructDef) :
      refTo o = ((o.map StructDef.canonicalName).map schemaRef).getD (.obj []) := by
    cases o <;> rfl
  rw [named, named, same]

theorem refTo_resolve?_of_sameNames (same : c.SameNames d) (id : Option StructId) :
    refTo (c.resolve? id) = refTo (d.resolve? id) := by
  cases id with
  | none => rfl
  | some id => exact refTo_eq_of_name_eq (same id)

mutual

theorem fragment_of_sameNames (same : c.SameNames d) :
    ∀ ty : Descriptor, fragment r c ty = fragment r d ty
  | .leaf _ => rfl
  | .optional inner => congrArg nullable (fragment_of_sameNames same inner)
  | .withDefault inner _ => fragment_of_sameNames same inner
  | .constrained inner _ => fragment_of_sameNames same inner
  | .sum left right => by
      rw [fragment, fragment, fragment_of_sameNames same left, fragment_of_sameNames same right]
  | .struct id => refTo_resolve?_of_sameNames same (some id)
  | .recursive id => refTo_resolve?_of_sameNames same id
  | .array element => by rw [fragment, fragment, fragment_of_sameNames same element]
  | .map _ value => by rw [fragment, fragment, fragment_of_sameNames same value]
  | .record fields => by rw [fragment, fragment, properties_of_sameNames same fields]

theorem properties_of_sameNames (same : c.SameNames d) :
    ∀ fields : List Field, properties r c fields = properties r d fields
  | [] => rfl
  | f :: fields => by
      rw [properties, properties, property_of_sameNames same f, properties_of_sameNames same fields]

theorem property_of_sameNames (same : c.SameNames d) :
    ∀ f : Field, property r c f = property r d f
  | ⟨name, type, description⟩ => by
      rw [property, property, fragment_of_sameNames same type]

end

end names
end Descriptor

/-! ### Names that are taken -/

theorem Document.Honours.mono {r : Registry} {c : Catalog} {doc next : Document} {m : Mention}
    (h : Honours r c doc m)
    (keeps : ∀ name origin, doc.origin? name = some origin → next.origin? name = some origin) :
    Honours r c next m := by
  cases m with
  | leaf l => exact h
  | struct id =>
      obtain ⟨d, found, taken⟩ := h
      exact ⟨d, found, keeps _ _ taken⟩

namespace Compiler
variable {r : Registry}

/-- Types that are published one after the other take no name from another origin, also if one of them
fails. -/
theorem StepsThrough.keeps_origin {α : Type} {c : Catalog} {m : Compiler α} {types : List Descriptor}
    (h : StepsThrough r c m types) {doc next : Document} {result : Except SetupError α}
    (ran : m.run.run doc = (result, next)) {name origin : String}
    (taken : doc.origin? name = some origin) : next.origin? name = some origin := by
  have steps := h doc
  rw [ran] at steps
  cases result with
  | ok a => exact Document.publish_keeps_origin steps taken
  | error e =>
      obtain ⟨before, ty, after, -, stops⟩ := steps
      exact Document.publish_keeps_origin stops.published taken

theorem Call.keeps_origin {call : Call} {doc next : Document} {answer : Except SetupError Json}
    (ran : (call.compile r).run.run doc = (answer, next)) {name origin : String}
    (taken : doc.origin? name = some origin) : next.origin? name = some origin := by
  cases call with
  | fragment c ty => exact (stepsThrough_fragment ty).keeps_origin ran taken
  | parameter c p => exact (stepsThrough_parameter p).keeps_origin ran taken
  | body c b => exact (stepsThrough_body b).keeps_origin ran taken
  | operation c e => exact (stepsThrough_operation e).keeps_origin ran taken

theorem session_keeps_origin (calls : List Call) {doc : Document} {name origin : String}
    (taken : doc.origin? name = some origin) :
    (session r calls doc).2.origin? name = some origin := by
  induction calls generalizing doc with
  | nil => exact taken
  | cons call calls ih =>
      cases ran : (call.compile r).run.run doc with
      | mk answer next =>
          rw [session_cons ran]
          exact ih (call.keeps_origin ran taken)

/-! ### Asking again -/

theorem run_fragment_of_honours {c : Catalog} {ty : Descriptor} {doc : Document}
    (honoured : ∀ m ∈ ty.mentions, Document.Honours r c doc m) :
    (fragment r c ty).run.run doc = (.ok (ty.fragment r c), doc) := by
  rw [run_fragment, Document.publish_of_honours honoured]

/-- If a compiler gives a fragment, it is the fragment of the type, which does not depend on the document
and shows no struct but by its name.  Everything in it can then be relied on: asked again, at once or
after any calls, the compiler gives the same and leaves its document as it is. -/
theorem fragment_again {c : Catalog} {ty : Descriptor} {doc next : Document} {v : Json}
    (h : (fragment r c ty).run.run doc = (.ok v, next)) :
    v = ty.fragment r c ∧
    (∀ other, c.SameNames other → v = ty.fragment r other) ∧
    (∀ m ∈ ty.mentions, Document.Honours r c next m) ∧
    (fragment r c ty).run.run next = (.ok v, next) ∧
    ∀ calls, (fragment r c ty).run.run (session r calls next).2 = (.ok v, (session r calls next).2) := by
  obtain ⟨published, rfl⟩ := (settled_fragment ty).run_eq_ok_iff.1 h
  have honoured := Document.publish_honours published
  refine ⟨rfl, ?_, honoured, run_fragment_of_honours honoured, ?_⟩
  · exact fun other same => Descriptor.fragment_of_sameNames same ty
  · intro calls
    refine run_fragment_of_honours fun m hm => (honoured m hm).mono ?_
    exact fun name origin taken => session_keeps_origin calls taken

/-! ### A page or a link to it -/

/-- A page, or a link back to a page. -/
def pageOrLink : Descriptor := .sum (.struct 0) (.recursive (some 0))

theorem run_pageOrLink : (fragment Registry.builtin site pageOrLink).run.run .empty =
    (.ok (.object [("anyOf", .arr [schemaRef "Page", schemaRef "Page"])]), siteDocument) := by
  have mentioned : pageOrLink.mentions = [.struct (some 0), .struct (some 0)] := rfl
  have found : site.resolve? (some 0) = some page := rfl
  have taken : siteDocument.origin? page.canonicalName = some page.origin := rfl
  have again : siteDocument.publish Registry.builtin site [.struct (some 0)] = .ok siteDocument :=
    Document.publish_of_honours fun m hm => by
      rw [List.mem_singleton.1 hm]
      exact ⟨page, found, taken⟩
  rw [run_fragment, mentioned, publish_page _ rfl, ← siteDocument, again]
  rfl

/-- The references stay what they are, also when a page with a counter has been refused in between. -/
theorem fragment_again_pageOrLink :
    (fragment Registry.builtin site pageOrLink).run.run siteDocument =
      (.ok (.object [("anyOf", .arr [schemaRef "Page", schemaRef "Page"])]), siteDocument) ∧
    (fragment Registry.builtin site pageOrLink).run.run
        (session Registry.builtin [.fragment site (.struct 1)] siteDocument).2 =
      (.ok (.object [("anyOf", .arr [schemaRef "Page", schemaRef "Page"])]),
        (session Registry.builtin [.fragment site (.struct 1)] siteDocument).2) := by
  obtain ⟨-, -, -, atOnce, later⟩ := fragment_again run_pageOrLink
  exact ⟨atOnce, later _⟩

end Compiler
end ApiContract
