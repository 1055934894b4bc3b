import ApiContract.Proofs.Endpoint.Reading

/-! # The security of an endpoint

A scheme accepts a request if the request itself carries a credential for it and the predicate of the
scheme accepts this credential (`Scheme.accepts_iff`).  Neither a default nor null is a credential.

The schemes of an endpoint are asked in order, each in a fresh context.  The first that does not reject
decides (`Endpoint.Decides`): its fault is the answer, or the request is read as if there were no
schemes and gets what the predicate of this scheme has left, and of no other.  Later schemes are not
asked, and if all reject the request is refused with the names of all (`Endpoint.validate_secured`). -/

namespace ApiContract

/-! ### One scheme -/

namespace Scheme

/-- A credential that stands in the request itself: in the parameter of a key, where it must have the
type of the parameter and not be null, or in the authorization header after the scheme's token. -/
inductive Carries (c : Catalog) (view : RequestView) (captures : Captures) : Carrier → Json → Prop
  | apiKey {p : Parameter} {raw : RawValue} {v : Json} (wire : p.raw view captures = .ok (some raw))
    (read : p.readRaw c raw = .ok v) (present : v.isNull = false) : Carries c view captures (.apiKey p) v
  | http {token text header : String} {format : Option String}
    (wire : view.header Header.authorizationKey = some header)
    (read : Credential.ofAuthorization? token header = some text) :
    Carries c view captures (.http token format) (.str text)

variable {c : Catalog} {view : RequestView} {captures : Captures} {services : Extensions}
  {s : Scheme}

theorem credential?_eq_some_iff {v : Json} :
    s.credential? c view captures = some v ↔ Carries c view captures s.carrier v := by
  unfold credential?
  cases s.carrier with
  | apiKey p =>
      dsimp only
      constructor
      · intro h
        cases found : p.lookup c view captures with
        | error err => rw [found] at h; cases h
        | ok value =>
            rw [found] at h
            obtain ⟨rfl, present⟩ := Option.filter_eq_some_iff.1 h
            obtain ⟨raw, wire, read⟩ := Parameter.lookup_eq_ok_some_iff.1 found
            exact .apiKey wire read (by simpa using present)
      · rintro ⟨wire, read, present⟩
        rw [Parameter.lookup_eq_ok_some_iff.2 ⟨_, wire, read⟩]
        simp [present]
  | http token format =>
      dsimp only
      constructor
      · intro h
        obtain ⟨text, found, rfl⟩ := Option.map_eq_some_iff.1 h
        obtain ⟨header, wire, read⟩ := Option.bind_eq_some_iff.1 found
        exact .http wire read
      · rintro (_ | ⟨wire, read⟩)
        rw [wire]
        show (Credential.ofAuthorization? token _).map _ = _
        rw [read]
        rfl

/-- The context that a predicate is run in. -/
def heard (view : RequestView) (captures : Captures) (services : Extensions) (credential : Json) :
    SecurityContext :=
  ⟨view, captures, services, some credential, Dict.empty⟩

theorem validate_of_carries {predicate : Predicate} {v : Json} (installed : s.predicate = some predicate)
    (carried : Carries c view captures s.carrier v) :
    s.validate c (.fresh view captures services) =
      ⟨s.settle (predicate (heard view captures services v)).verdict,
        { heard view captures services v with
          extensions := (predicate (heard view captures services v)).extensions }, true⟩ := by
  unfold validate SecurityContext.fresh
  dsimp only
  rw [credential?_eq_some_iff.2 carried, installed]
  rfl

theorem validate_of_silent
    (silent : ¬∃ predicate v, s.predicate = some predicate ∧ Carries c view captures s.carrier v) :
    (s.validate c (.fresh view captures services)).verdict = .ok false ∧
      (s.validate c (.fresh view captures services)).consulted = false := by
  unfold validate SecurityContext.fresh
  dsimp only
  cases credential : s.credential? c view captures with
  | none => exact ⟨rfl, rfl⟩
  | some v =>
      cases installed : s.predicate with
      | none => exact ⟨rfl, rfl⟩
      | some predicate =>
          exact absurd ⟨predicate, v, installed, credential?_eq_some_iff.1 credential⟩ silent

theorem settle_eq_ok_true_iff {result : Except PredicateError Bool} :
    s.settle result = .ok true ↔ result = .ok true := by
  cases result with
  | ok b => simp [settle]
  | error err => simp only [settle]; split <;> simp

theorem settle_eq_error_iff {result : Except PredicateError Bool} {f : SecurityFault} :
    s.settle result = .error f ↔
      ∃ err, result = .error err ∧ err.fault.isSome = true ∧ f = ⟨s.name, err⟩ := by
  cases result with
  | ok b => simp [settle]
  | error err =>
      simp only [settle]
      split
      · next fault =>
        constructor
        · intro h
          exact ⟨err, rfl, fault, (Except.error.inj h).symm⟩
        · rintro ⟨_, h, -, rfl⟩
          rw [Except.error.inj h]
      · next fault =>
        constructor
        · intro h
          cases h
        · rintro ⟨_, h, held, -⟩
          rw [← Except.error.inj h] at held
          exact absurd held fault

/-- A predicate is run exactly if the scheme has one and the request carries a credential. -/
theorem consulted_iff : (s.validate c (.fresh view captures services)).consulted = true ↔
    ∃ predicate v, s.predicate = some predicate ∧ Carries c view captures s.carrier v := by
  constructor
  · intro consulted
    by_cases h : ∃ predicate v, s.predicate = some predicate ∧ Carries c view captures s.carrier v
    · exact h
    · rw [(validate_of_silent h).2] at consulted
      cases consulted
  · rintro ⟨predicate, v, installed, carried⟩
    rw [validate_of_carries installed carried]

theorem accepts_iff : (s.validate c (.fresh view captures services)).verdict = .ok true ↔
    ∃ predicate v, s.predicate = some predicate ∧ Carries c view captures s.carrier v ∧
      predicate (heard view captures services v) =
        ⟨.ok true, (s.validate c (.fresh view captures services)).context.extensions⟩ := by
  constructor
  · intro accepted
    by_cases h : ∃ predicate v, s.predicate = some predicate ∧ Carries c view captures s.carrier v
    · obtain ⟨predicate, v, installed, carried⟩ := h
      refine ⟨predicate, v, installed, carried, ?_⟩
      rw [validate_of_carries installed carried] at accepted ⊢
      have verdict := settle_eq_ok_true_iff.1 accepted
      rw [← verdict]
    · rw [(validate_of_silent h).1] at accepted
      cases accepted
  · rintro ⟨predicate, v, installed, carried, result⟩
    rw [validate_of_carries installed carried, result]
    rfl

theorem faults_iff {f : SecurityFault} :
    (s.validate c (.fresh view captures services)).verdict = .error f ↔
      ∃ predicate v err, s.predicate = some predicate ∧ Carries c view captures s.carrier v ∧
        (predicate (heard view captures services v)).verdict = .error err ∧
        err.fault.isSome = true ∧ f = ⟨s.name, err⟩ := by
  constructor
  · intro failed
    by_cases h : ∃ predicate v, s.predicate = some predicate ∧ Carries c view captures s.carrier v
    · obtain ⟨predicate, v, installed, carried⟩ := h
      rw [validate_of_carries installed carried] at failed
      obtain ⟨err, verdict, fault, named⟩ := settle_eq_error_iff.1 failed
      exact ⟨predicate, v, err, installed, carried, verdict, fault, named⟩
    · rw [(validate_of_silent h).1] at failed
      cases failed
  · rintro ⟨predicate, v, err, installed, carried, verdict, fault, named⟩
    rw [validate_of_carries installed carried]
    exact settle_eq_error_iff.2 ⟨err, verdict, fault, named⟩

end Scheme

/-! ### The schemes of an endpoint -/

namespace Endpoint
variable (c : Catalog) (view : RequestView) (captures : Captures) (services : Extensions)

/-- Whether a scheme rejects a request. -/
def Rejects (s : Scheme) : Prop := (s.validate c (.fresh view captures services)).verdict = .ok false

/-- The scheme `s` is the first that does not reject a request, after those in `before`. -/
structure Decides (schemes before : List Scheme) (s : Scheme) : Prop where
  place : before ++ [s] <+: schemes
  rejected : ∀ t ∈ before, Rejects c view captures services t
  decided : ¬Rejects c view captures services s

/-- The names of those of some schemes whose predicates are run, if they are all asked. -/
def consultedNames (schemes : List Scheme) : List String :=
  (schemes.filter fun s => (s.validate c (.fresh view captures services)).consulted).map Scheme.name

/-- The answer of the scheme that decides. -/
def decision (s : Scheme) : Except Rejection Extensions :=
  let result := s.validate c (.fresh view captures services)
  match result.verdict with
  | .error f => .error (.fault f)
  | .ok _ => .ok result.context.extensions

variable {c view captures services}

theorem append_consultedNames_cons (consulted : List String) (s : Scheme) (rest : List Scheme) :
    consulted ++ consultedNames c view captures services (s :: rest) =
      (if (s.validate c (.fresh view captures services)).consulted then consulted ++ [s.name]
        else consulted) ++ consultedNames c view captures services rest := by
  unfold consultedNames
  rw [List.filter_cons]
  split <;> simp

theorem exists_decides {schemes : List Scheme}
    (h : ¬∀ s ∈ schemes, Rejects c view captures services s) :
    ∃ before s, Decides c view captures services schemes before s := by
  induction schemes with
  | nil => exact absurd (fun _ hs => by cases hs) h
  | cons first rest ih =>
      by_cases rejects : Rejects c view captures services first
      · have later : ¬∀ s ∈ rest, Rejects c view captures services s := by
          intro all
          exact h (List.forall_mem_cons.2 ⟨rejects, all⟩)
        obtain ⟨before, s, place, rejected, decided⟩ := ih later
        refine ⟨first :: before, s, ?_, List.forall_mem_cons.2 ⟨rejects, rejected⟩, decided⟩
        exact List.cons_prefix_cons.2 ⟨rfl, place⟩
      · exact ⟨[], first, by simp, by simp, rejects⟩

theorem decision_cases {before schemes : List Scheme} {s : Scheme}
    (h : Decides c view captures services schemes before s) :
    (∃ f, (s.validate c (.fresh view captures services)).verdict = .error f ∧
      decision c view captures services s = .error (.fault f)) ∨
    ((s.validate c (.fresh view captures services)).verdict = .ok true ∧
      decision c view captures services s =
        .ok (s.validate c (.fresh view captures services)).context.extensions) := by
  have decided := h.decided
  unfold Rejects at decided
  unfold decision
  cases verdict : (s.validate c (.fresh view captures services)).verdict with
  | error f => exact .inl ⟨f, rfl, by simp only [verdict]⟩
  | ok accepted =>
      cases accepted with
      | true => exact .inr ⟨rfl, by simp only [verdict]⟩
      | false => exact absurd verdict decided

/-- Schemes that reject are passed over. -/
theorem askSchemes_append (cache : QueryCache) (shows : cache.view = view) (tried : List String)
    {before : List Scheme} (rejected : ∀ t ∈ before, Rejects c view captures services t)
    (rest : List Scheme) (consulted : List String) : ∃ later : QueryCache, later.view = view ∧
      askSchemes c captures services tried cache (before ++ rest) consulted =
        askSchemes c captures services tried later rest
          (consulted ++ consultedNames c view captures services before) := by
  induction before generalizing cache consulted with
  | nil => exact ⟨cache, shows, by rw [consultedNames]; simp⟩
  | cons s before ih =>
      obtain ⟨rejects, rejected⟩ := List.forall_mem_cons.1 rejected
      have shows' : (cache.after s.readsQuery).view = view := by rw [QueryCache.view_after, shows]
      obtain ⟨later, hlater, asked⟩ := ih _ shows' rejected
        (if (s.validate c (.fresh view captures services)).consulted then consulted ++ [s.name]
          else consulted)
      refine ⟨later, hlater, ?_⟩
      unfold Rejects at rejects
      rw [List.cons_append, askSchemes, shows]
      simp only [rejects, asked, append_consultedNames_cons]

theorem authorize_of_rejected {e : Endpoint} (secured : e.security ≠ [])
    (rejected : ∀ s ∈ e.security, Rejects c view captures services s) :
    (e.authorize c (.new view) captures services).outcome =
        .error (.unauthorized (e.security.map Scheme.name)) ∧
      (e.authorize c (.new view) captures services).consulted =
        consultedNames c view captures services e.security := by
  unfold authorize
  rw [if_neg (by simpa using secured)]
  obtain ⟨later, -, asked⟩ := askSchemes_append (.new view) (QueryCache.view_new view)
    (e.security.map Scheme.name) rejected [] []
  rw [List.append_nil] at asked
  rw [asked]
  exact ⟨rfl, List.nil_append _⟩

theorem authorize_of_decides {e : Endpoint} {before : List Scheme} {s : Scheme}
    (h : Decides c view captures services e.security before s) :
    (e.authorize c (.new view) captures services).outcome = decision c view captures services s ∧
      (e.authorize c (.new view) captures services).consulted =
        consultedNames c view captures services (before ++ [s]) := by
  obtain ⟨after, place⟩ := h.place
  have secured : e.security ≠ [] := by
    rw [← place]
    simp
  unfold authorize
  rw [if_neg (by simpa using secured)]
  generalize e.security.map Scheme.name = tried
  rw [← place, List.append_assoc]
  obtain ⟨later, shows, asked⟩ := askSchemes_append (.new view) (QueryCache.view_new view) tried
    h.rejected ([s] ++ after) []
  have ends : consultedNames c view captures services (before ++ [s]) =
      if (s.validate c (.fresh view captures services)).consulted then
        consultedNames c view captures services before ++ [s.name]
      else consultedNames c view captures services before := by
    have apart : consultedNames c view captures services (before ++ [s]) =
        consultedNames c view captures services before ++
          consultedNames c view captures services [s] := by
      unfold consultedNames
      rw [List.filter_append, List.map_append]
    rw [apart, append_consultedNames_cons]
    exact List.append_nil _
  rw [asked, List.nil_append, List.singleton_append, askSchemes, shows, ends]
  rcases decision_cases h with ⟨f, verdict, decided⟩ | ⟨verdict, decided⟩
  · rw [decided]
    simp only [verdict, and_self]
  · rw [decided]
    simp only [verdict, and_self]

theorem answer_eq_map (c : Catalog) (e : Endpoint) (view : RequestView) (captures : Captures)
    (extensions : Extensions) : e.answer c view captures extensions =
      (e.answer c view captures Dict.empty).map fun r => { r with extensions := extensions } := by
  unfold answer
  split <;> rfl

theorem answer_ne_fault {extensions : Extensions} {e : Endpoint} {f : SecurityFault} :
    e.answer c view captures extensions ≠ .error (.fault f) := by
  unfold answer
  split <;> simp

theorem answer_ne_unauthorized {extensions : Extensions} {e : Endpoint} {names : List String} :
    e.answer c view captures extensions ≠ .error (.unauthorized names) := by
  unfold answer
  split <;> simp

theorem validate_of_decides {e : Endpoint} {before : List Scheme} {s : Scheme}
    (h : Decides c view captures services e.security before s) :
    e.validate c view captures services =
      ⟨decision c view captures services s >>= e.answer c view captures,
        consultedNames c view captures services (before ++ [s])⟩ := by
  obtain ⟨outcome, consulted⟩ := authorize_of_decides h
  have answered := validate_eq c e view captures services
  rw [outcome] at answered
  rw [← answered, ← consulted]
  rfl

theorem validate_of_rejected {e : Endpoint} (secured : e.security ≠ [])
    (rejected : ∀ s ∈ e.security, Rejects c view captures services s) :
    e.validate c view captures services =
      ⟨.error (.unauthorized (e.security.map Scheme.name)),
        consultedNames c view captures services e.security⟩ := by
  obtain ⟨outcome, consulted⟩ := authorize_of_rejected secured rejected
  have answered := validate_eq c e view captures services
  rw [outcome] at answered
  rw [← consulted]
  exact congrArg (Validation.mk · _) answered

section secured
variable {e : Endpoint}

theorem rejected_or_decides (c : Catalog) (e : Endpoint) (view : RequestView) (captures : Captures)
    (services : Extensions) : (∀ s ∈ e.security, Rejects c view captures services s) ∨
      ∃ before s, Decides c view captures services e.security before s := by
  by_cases h : ∀ s ∈ e.security, Rejects c view captures services s
  · exact .inl h
  · exact .inr (exists_decides h)

theorem validate_fault_iff (secured : e.security ≠ []) {f : SecurityFault} :
    (e.validate c view captures services).outcome = .error (.fault f) ↔ ∃ before s,
      Decides c view captures services e.security before s ∧
      (s.validate c (.fresh view captures services)).verdict = .error f := by
  constructor
  · intro outcome
    rcases rejected_or_decides c e view captures services with h | ⟨before, s, h⟩
    · rw [validate_of_rejected secured h] at outcome
      cases outcome
    · refine ⟨before, s, h, ?_⟩
      rw [validate_of_decides h] at outcome
      rcases decision_cases h with ⟨g, verdict, decided⟩ | ⟨-, decided⟩
      · rw [decided] at outcome
        cases outcome
        exact verdict
      · rw [decided] at outcome
        exact absurd outcome answer_ne_fault
  · rintro ⟨before, s, h, verdict⟩
    rw [validate_of_decides h]
    rcases decision_cases h with ⟨g, verdict', decided⟩ | ⟨verdict', -⟩
    · rw [verdict] at verdict'
      cases verdict'
      rw [decided]
      rfl
    · rw [verdict] at verdict'
      cases verdict'

theorem validate_unauthorized_iff (secured : e.security ≠ []) {names : List String} :
    (e.validate c view captures services).outcome = .error (.unauthorized names) ↔
      (∀ s ∈ e.security, Rejects c view captures services s) ∧
        names = e.security.map Scheme.name := by
  constructor
  · intro outcome
    rcases rejected_or_decides c e view captures services with h | ⟨before, s, h⟩
    · rw [validate_of_rejected secured h] at outcome
      cases outcome
      exact ⟨h, rfl⟩
    · rw [validate_of_decides h] at outcome
      rcases decision_cases h with ⟨g, -, decided⟩ | ⟨-, decided⟩
      · rw [decided] at outcome
        cases outcome
      · rw [decided] at outcome
        exact absurd outcome answer_ne_unauthorized
  · rintro ⟨h, rfl⟩
    rw [validate_of_rejected secured h]

theorem validate_of_accepts {before : List Scheme} {s : Scheme}
    (h : Decides c view captures services e.security before s)
    (accepts : (s.validate c (.fresh view captures services)).verdict = .ok true) :
    (e.validate c view captures services).outcome =
      ({ e with security := [] }.validate c view captures services).outcome.map
        fun r : ValidatedRequest =>
          { r with extensions := (s.validate c (.fresh view captures services)).context.extensions } := by
  have unsecured : ({ e with security := [] }.validate c view captures services).outcome =
      e.answer c view captures Dict.empty := validate_eq c { e with security := [] } view captures services
  rw [validate_of_decides h, unsecured]
  rcases decision_cases h with ⟨g, verdict, -⟩ | ⟨-, decided⟩
  · rw [accepts] at verdict
    cases verdict
  · rw [decided, ← answer_eq_map]
    rfl

/-- The schemes after the one that decides make no difference. -/
theorem Decides.of_prefix {before others : List Scheme} {s : Scheme} {schemes : List Scheme}
    (h : Decides c view captures services schemes before s) :
    Decides c view captures services (before ++ s :: others) before s where
  place := ⟨others, by simp⟩
  rejected := h.rejected
  decided := h.decided

theorem validate_congr {before : List Scheme} {s : Scheme}
    (h : Decides c view captures services e.security before s) (others : List Scheme) :
    validate c { e with security := before ++ s :: others } view captures services =
      e.validate c view captures services := by
  have same : Decides c view captures services
      ({ e with security := before ++ s :: others } : Endpoint).security before s := h.of_prefix
  rw [validate_of_decides same, validate_of_decides h]
  rfl

end secured

/-- **The schemes cannot be passed by.**  With `asked s` for the answer of a scheme in a fresh context:

* the fault of the first scheme that does not reject is the answer, and there is no other;
* a request is unauthorized exactly if all schemes reject it, and the names are those of all;
* if the first scheme that does not reject accepts, the request is answered as without schemes but gets
  what the predicate of this scheme has left;
* predicates are run of schemes up to the first that does not reject, of each once at most and in
  order, and what other schemes there are after it makes no difference;
* a scheme accepts, is at fault or has its predicate run only on a credential that the request itself
  carries. -/
theorem validate_secured {c : Catalog} {e : Endpoint} {view : RequestView} {captures : Captures}
    {services : Extensions} (secured : e.security ≠ []) :
    let asked (s : Scheme) := s.validate c (.fresh view captures services)
    let answer := e.validate c view captures services
    ((∀ s ∈ e.security, (asked s).verdict = .ok false) ∨
      ∃ before s, Decides c view captures services e.security before s) ∧
    (∀ f, answer.outcome = .error (.fault f) ↔ ∃ before s,
      Decides c view captures services e.security before s ∧ (asked s).verdict = .error f) ∧
    (∀ names, answer.outcome = .error (.unauthorized names) ↔
      (∀ s ∈ e.security, (asked s).verdict = .ok false) ∧ names = e.security.map Scheme.name) ∧
    (∀ before s, Decides c view captures services e.security before s →
      (asked s).verdict = .ok true →
      answer.outcome = ({ e with security := [] }.validate c view captures services).outcome.map
        fun r : ValidatedRequest => { r with extensions := (asked s).context.extensions }) ∧
    ((∀ s ∈ e.security, (asked s).verdict = .ok false) →
      answer.consulted = consultedNames c view captures services e.security) ∧
    (∀ before s, Decides c view captures services e.security before s →
      answer.consulted = consultedNames c view captures services (before ++ [s]) ∧
      ∀ others, validate c { e with security := before ++ s :: others } view captures services =
        answer) ∧
    (∀ s, ((asked s).consulted = true ↔ ∃ predicate v, s.predicate = some predicate ∧
        Scheme.Carries c view captures s.carrier v) ∧
      ((asked s).verdict = .ok true ↔ ∃ predicate v, s.predicate = some predicate ∧
        Scheme.Carries c view captures s.carrier v ∧
        predicate (Scheme.heard view captures services v) =
          ⟨.ok true, (asked s).context.extensions⟩) ∧
      ∀ f, (asked s).verdict = .error f ↔ ∃ predicate v err, s.predicate = some predicate ∧
        Scheme.Carries c view captures s.carrier v ∧
        (predicate (Scheme.heard view captures services v)).verdict = .error err ∧
        err.fault.isSome = true ∧ f = ⟨s.name, err⟩) := by
  intro asked answer
  refine ⟨rejected_or_decides c e view captures services, fun f => validate_fault_iff secured,
    fun names => validate_unauthorized_iff secured, fun before s h => validate_of_accepts h, ?_, ?_, ?_⟩
  · intro h
    show (e.validate c view captures services).consulted = _
    rw [validate_of_rejected secured h]
  · intro before s h
    refine ⟨?_, validate_congr h⟩
    show (e.validate c view captures services).consulted = _
    rw [validate_of_decides h]
  · intro s
    exact ⟨Scheme.consulted_iff, Scheme.accepts_iff, fun f => Scheme.faults_iff⟩

/-! ### A rejecting scheme before an accepting one -/

/-- A scheme that rejects every bearer and leaves a note all the same. -/
def strict : Scheme :=
  .http "strict" "Bearer" none none (some fun _ => ⟨.ok false, Dict.ofList [("note", .str "seen")]⟩)

/-- A scheme that accepts every bearer and leaves a user. -/
def lenient : Scheme :=
  .http "lenient" "Bearer" none none (some fun _ => ⟨.ok true, Dict.ofList [("user", .str "ann")]⟩)

/-- The pages of a list, of which there is one, for those whom either scheme accepts. -/
def guardedPages : Endpoint := { pages with parameters := [], security := [strict, lenient] }

/-- The request of some bearer. -/
def bearerRequest : RequestView := .parsed 10 none bearerHeader (fun _ => none) none

theorem guardedPages_decides :
    Decides ⟨[]⟩ bearerRequest [] Dict.empty guardedPages.security [strict] lenient where
  place := ⟨[], rfl⟩
  rejected := List.forall_mem_singleton.2 rfl
  decided := by
    intro rejects
    cases show Except.ok true = Except.ok false from rejects

theorem validate_guardedPages :
    (guardedPages.validate ⟨[]⟩ bearerRequest [] Dict.empty).outcome =
        .ok ⟨Dict.empty, none, Dict.ofList [("user", .str "ann")]⟩ ∧
      (guardedPages.validate ⟨[]⟩ bearerRequest [] Dict.empty).consulted = ["strict", "lenient"] := by
  have secured : guardedPages.security ≠ [] := by simp [guardedPages]
  obtain ⟨-, -, -, accepted, -, consulted, -⟩ :=
    @validate_secured ⟨[]⟩ guardedPages bearerRequest [] Dict.empty secured
  constructor
  · rw [accepted [strict] lenient guardedPages_decides rfl]
    rfl
  · rw [(consulted [strict] lenient guardedPages_decides).1]
    rfl

end Endpoint
end ApiContract
