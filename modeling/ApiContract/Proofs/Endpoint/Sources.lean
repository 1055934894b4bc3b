import ApiContract.Endpoint
import ApiContract.Proofs.HeaderName

/-! # Where the parameters of an endpoint look

A parameter looks for its value in one place: under the name of a capture, under a key of the query
string, under the transport key of a header or under the name of a cookie (`Parameter.wireSource`).  Two
headers with one transport key show the same on every request (`Parameter.raw_eq_of_wireSource_eq`).

The check of an endpoint compares names as they are declared (`Endpoint.check_eq_ok_iff`).  For headers
that is not enough, since names that differ in case have one key: the parameters of an endpoint look in
different places exactly if the check accepts the endpoint and no two of its headers have one key
(`Endpoint.sourcesApart_iff`).  `Endpoint.twiceTagged_shares_header` is an endpoint that the check
accepts with two names of one header. -/

namespace ApiContract

namespace Parameter

/-- Where a parameter looks for its value: a location, and the name of a capture, the key of a pair, the
transport key of a header or the name of a cookie there. -/
def wireSource (p : Parameter) : Location × String :=
  match p.source with
  | .path => (.path, p.name)
  | .query => (.query, p.name)
  | .header name => (.header, Header.transportKey name)
  | .cookie name => (.cookie, name)

/-- The declared name of a header. -/
def headerName? (p : Parameter) : Option String :=
  match p.source with
  | .header name => some name
  | _ => none

/-- What is found in one place is the same, save for the query string, where lists and deep objects also
look at keys with brackets. -/
theorem raw_eq_of_wireSource_eq {p q : Parameter} (same : p.wireSource = q.wireSource)
    (elsewhere : p.location ≠ .query) (view : RequestView) (captures : Captures) :
    p.raw view captures = q.raw view captures := by
  cases hp : p.source <;> cases hq : q.source <;>
    simp_all [wireSource, raw, location, Source.location]

theorem wireSource_eq_iff {p q : Parameter} : p.wireSource = q.wireSource ↔
    (p.location, p.wireName) = (q.location, q.wireName) ∨
      ∃ m n, p.headerName? = some m ∧ q.headerName? = some n ∧
        Header.transportKey m = Header.transportKey n := by
  cases hp : p.source <;> cases hq : q.source <;>
    grind [wireSource, wireName, location, headerName?, Source.location]

end Parameter

namespace Endpoint
variable {e : Endpoint}

/-- The declared names of the headers among the parameters. -/
def headerNames (e : Endpoint) : List String := e.parameters.filterMap Parameter.headerName?

/-- No two parameters look in one place. -/
def SourcesApart (e : Endpoint) : Prop :=
  e.parameters.Pairwise fun p q => p.wireSource ≠ q.wireSource

/-! ### What is checked -/

theorem firstRepeated?_eq_none_iff {seen keys : List (Location × String)} :
    firstRepeated? seen keys = none ↔ keys.Nodup ∧ ∀ key ∈ keys, key ∉ seen := by
  induction keys generalizing seen with
  | nil => simp [firstRepeated?]
  | cons key keys ih =>
      rw [firstRepeated?, List.nodup_cons]
      split
      · next repeated => simp [repeated]
      · next fresh =>
        rw [ih]
        simp only [List.mem_cons, not_or, forall_eq_or_imp]
        constructor
        · rintro ⟨nodup, apart⟩
          exact ⟨⟨fun mem => (apart key mem).1 rfl, nodup⟩, fresh, fun k mem => (apart k mem).2⟩
        · rintro ⟨⟨once, nodup⟩, -, apart⟩
          exact ⟨nodup, fun k mem => ⟨fun same => once (same ▸ mem), apart k mem⟩⟩

theorem check_eq_ok_iff : e.check = .ok () ↔
    e.parameters.Pairwise fun p q => (p.location, p.wireName) ≠ (q.location, q.wireName) := by
  have keys : e.check = .ok () ↔ firstRepeated? [] e.parameterKeys = none := by
    unfold check
    cases firstRepeated? [] e.parameterKeys <;> simp
  rw [keys, firstRepeated?_eq_none_iff, parameterKeys, List.Nodup, List.pairwise_map]
  simp

/-- The parameters look in different places if and only if the check accepts the endpoint and no two
headers agree in capitals, blanks around their names aside. -/
theorem sourcesApart_iff (e : Endpoint) : e.SourcesApart ↔ e.check = .ok () ∧
    e.headerNames.Pairwise fun m n =>
      Header.capitals (Text.trimmed m) ≠ Header.capitals (Text.trimmed n) := by
  have told (p q : Parameter) : p.wireSource ≠ q.wireSource ↔
      (p.location, p.wireName) ≠ (q.location, q.wireName) ∧
        ∀ m, p.headerName? = some m → ∀ n, q.headerName? = some n →
          Header.capitals (Text.trimmed m) ≠ Header.capitals (Text.trimmed n) := by
    simp only [Ne, Parameter.wireSource_eq_iff, Header.transportKey_eq_iff, not_or, not_exists, not_and]
    exact and_congr_right fun _ => forall_congr' fun m => forall_comm
  rw [SourcesApart, List.Pairwise.iff told, List.pairwise_and_iff, ← check_eq_ok_iff, headerNames,
    List.pairwise_filterMap]

/-! ### One header with two names -/

/-- A text in a header. -/
def tag : Parameter := ⟨"tag", .header "X-Tag", .leaf .string, .simple, false, none, false⟩

/-- A text in the same header, with its name in lower case. -/
def label : Parameter := ⟨"label", .header "x-tag", .leaf .string, .simple, false, none, false⟩

/-- An endpoint with both. -/
def twiceTagged : Endpoint where
  method := "GET"
  path := "/items"
  operationId := none
  summary := none
  description := none
  tags := []
  parameters := [tag, label]
  body := none
  security := []
  responses := []
  deprecated := false

theorem twiceTagged_shares_header : twiceTagged.check = .ok () ∧ ¬ twiceTagged.SourcesApart ∧
    ∀ view captures, tag.raw view captures = label.raw view captures := by
  have same : tag.wireSource = label.wireSource := by decide
  refine ⟨rfl, fun apart => ?_, Parameter.raw_eq_of_wireSource_eq same (by decide)⟩
  have different := (List.pairwise_cons.1 apart).1 label List.mem_cons_self
  exact different same

end Endpoint
end ApiContract
