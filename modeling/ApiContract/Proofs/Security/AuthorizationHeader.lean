import ApiContract.Proofs.Trimming
import ApiContract.Security.Credential

/-! # Reading an authorization header

An authorization header holds the token of a scheme, in upper or lower case, and a credential, with blanks
between and around them (`Credential.Parts`).  A text has these parts in one way at most, since neither
the token nor the ends of the credential are blank.  Reading accepts exactly the texts that have them and
answers with the credential (`Credential.ofAuthorization?_eq_some_iff`). -/

namespace ApiContract.Credential

/-- What an authorization header for a scheme consists of. -/
structure Parts (scheme : String) where
  before : String
  token : String
  gap : String
  credential : String
  after : String
  before_blank : ∀ c ∈ before.toList, Text.isBlank c = true
  token_ne : token ≠ ""
  token_solid : ∀ c ∈ token.toList, Text.isBlank c = false
  /-- Case does not count. -/
  token_same : Text.sameAscii token scheme = true
  gap_ne : gap ≠ ""
  gap_blank : ∀ c ∈ gap.toList, Text.isBlank c = true
  credential_ne : credential ≠ ""
  /-- There may be blanks in it, but not at an end. -/
  credential_solid : Text.SolidEnds Text.isBlank credential.toList
  after_blank : ∀ c ∈ after.toList, Text.isBlank c = true

namespace Parts
variable {scheme : String} (p : Parts scheme)

/-- The header with these parts. -/
def text : String := p.before ++ p.token ++ p.gap ++ p.credential ++ p.after

theorem toList_text : p.text.toList = p.before.toList ++
    (p.token.toList ++ (p.gap.toList ++ (p.credential.toList ++ p.after.toList))) := by
  simp [text]

theorem takeWhile_token (more : List Char) :
    (p.token.toList ++ more).takeWhile Text.isBlank = [] :=
  Text.takeWhile_append_eq_nil (Text.toList_ne_nil p.token_ne)
    (Text.any_head?_eq_false p.token_solid) more

theorem takeWhile_gap (more : List Char) :
    (p.gap.toList ++ more).takeWhile (!Text.isBlank ·) = [] := by
  refine Text.takeWhile_append_eq_nil (Text.toList_ne_nil p.gap_ne)
    (Text.any_head?_eq_false fun c mem => ?_) more
  rw [p.gap_blank c mem]
  rfl

theorem takeWhile_credential (more : List Char) :
    (p.credential.toList ++ more).takeWhile Text.isBlank = [] :=
  Text.takeWhile_append_eq_nil (Text.toList_ne_nil p.credential_ne) p.credential_solid.first more

theorem trim_credential : Text.trim (p.credential.toList ++ p.after.toList) = p.credential.toList :=
  p.credential_solid.trimBy_append (fun _ mem => absurd mem List.not_mem_nil) p.after_blank

/-- A text has these parts in one way at most: each ends where a character of the other kind stands. -/
theorem text_injective : Function.Injective (Parts.text : Parts scheme → String) := by
  intro p q same
  have lists := congrArg String.toList same
  rw [toList_text, toList_text] at lists
  have solid (r : Parts scheme) : ∀ c ∈ r.token.toList, (!Text.isBlank c) = true :=
    fun c mem => by rw [r.token_solid c mem]; rfl
  obtain ⟨before, lists⟩ := Text.append_inj_of_stop p.before_blank q.before_blank
    (p.takeWhile_token _) (q.takeWhile_token _) lists
  obtain ⟨token, lists⟩ := Text.append_inj_of_stop (solid p) (solid q)
    (p.takeWhile_gap _) (q.takeWhile_gap _) lists
  obtain ⟨gap, lists⟩ := Text.append_inj_of_stop p.gap_blank q.gap_blank
    (p.takeWhile_credential _) (q.takeWhile_credential _) lists
  have credential : p.credential.toList = q.credential.toList := by
    rw [← trim_credential p, lists, trim_credential q]
  rw [credential] at lists
  have after := List.append_cancel_left lists
  cases p
  cases q
  rw [Parts.mk.injEq]
  exact ⟨String.toList_inj.1 before, String.toList_inj.1 token, String.toList_inj.1 gap,
    String.toList_inj.1 credential, String.toList_inj.1 after⟩

end Parts

variable {scheme : String}

theorem ofAuthorization?_text (p : Parts scheme) :
    ofAuthorization? scheme p.text = some p.credential := by
  obtain ⟨b, blanks, gap⟩ : ∃ b blanks, p.gap.toList = b :: blanks :=
    List.exists_cons_of_ne_nil (Text.toList_ne_nil p.gap_ne)
  have solid : Text.SolidEnds Text.isBlank
      (p.token.toList ++ (b :: (blanks ++ p.credential.toList))) := by
    obtain ⟨c, token, first⟩ := List.exists_cons_of_ne_nil (Text.toList_ne_nil p.token_ne)
    refine ⟨?_, ?_⟩
    · rw [first, List.cons_append]
      exact p.token_solid c (first ▸ List.mem_cons_self)
    · rw [← List.cons_append, ← List.append_assoc,
        List.getLast?_append_of_ne_nil _ (Text.toList_ne_nil p.credential_ne)]
      exact p.credential_solid.last
  have outer : Text.trim p.text.toList =
      p.token.toList ++ (b :: (blanks ++ p.credential.toList)) := by
    rw [Parts.toList_text, gap, Text.trim, ← solid.trimBy_append p.before_blank p.after_blank]
    simp only [List.append_assoc, List.cons_append]
  have inner : Text.trim (blanks ++ p.credential.toList) = p.credential.toList := by
    have kept : Text.trim (blanks ++ p.credential.toList ++ []) = p.credential.toList :=
      p.credential_solid.trimBy_append
        (fun c mem => p.gap_blank c (gap ▸ List.mem_cons_of_mem b mem)) (by simp)
    rwa [List.append_nil] at kept
  have cut := Text.cutAt?_append_cons p.token_solid (p.gap_blank b (gap ▸ List.mem_cons_self))
    (blanks ++ p.credential.toList)
  simp [Credential.ofAuthorization?, outer, cut, inner, p.token_same, p.credential_ne]

/-- A header that is read has parts.  What the two trims drop stands around the token and around the credential;
the token is not empty, since a header that is trimmed has no blank in front. -/
theorem exists_parts {authorization credential : String}
    (read : ofAuthorization? scheme authorization = some credential) :
    ∃ p : Parts scheme, p.text = authorization ∧ p.credential = credential := by
  obtain ⟨⟨token, rest⟩, cut, read⟩ := Option.bind_eq_some_iff.1 read
  obtain ⟨⟨same, some_char⟩, rfl⟩ : (Text.sameAscii (String.ofList token) scheme = true ∧
      ¬Text.trim rest = []) ∧ String.ofList (Text.trim rest) = credential := by
    simpa using read
  obtain ⟨token_solid, b, blank, middle⟩ := Text.cutAt?_eq_some_iff.1 cut
  obtain ⟨front, back, front_blank, back_blank, outer⟩ :=
    Text.exists_eq_append_trimBy Text.isBlank authorization.toList
  obtain ⟨gap, after, gap_blank, after_blank, inner⟩ :=
    Text.exists_eq_append_trimBy Text.isBlank rest
  rw [← Text.trim] at outer inner
  have outer_solid : Text.SolidEnds Text.isBlank (Text.trim authorization.toList) :=
    Text.solidEnds_trimBy _ _
  have inner_solid : Text.SolidEnds Text.isBlank (Text.trim rest) := Text.solidEnds_trimBy _ _
  have token_ne : token ≠ [] := by
    rintro rfl
    rw [middle] at outer_solid
    exact Bool.noConfusion (blank.symm.trans outer_solid.first)
  have spelled : authorization.toList =
      front ++ (token ++ (b :: gap ++ (Text.trim rest ++ (after ++ back)))) := by
    calc authorization.toList
      _ = front ++ (token ++ b :: rest) ++ back := by rw [← middle, ← outer]
      _ = front ++ (token ++ b :: (gap ++ Text.trim rest ++ after)) ++ back := by rw [← inner]
      _ = _ := by simp only [List.append_assoc, List.cons_append]
  refine ⟨{ before := String.ofList front
            token := String.ofList token
            gap := String.ofList (b :: gap)
            credential := String.ofList (Text.trim rest)
            after := String.ofList (after ++ back)
            before_blank := by simpa using front_blank
            token_ne := by simpa using token_ne
            token_solid := by simpa using token_solid
            token_same := same
            gap_ne := by simp
            gap_blank := by simpa using ⟨blank, gap_blank⟩
            credential_ne := by simpa using some_char
            credential_solid := by simpa using inner_solid
            after_blank := fun c mem => ?_ }, ?_, rfl⟩
  · rcases List.mem_append.1 (String.toList_ofList ▸ mem) with mem | mem
    · exact after_blank c mem
    · exact back_blank c mem
  · refine String.toList_inj.1 ?_
    rw [Parts.toList_text, spelled]
    simp only [String.toList_ofList]

/-- Reading accepts exactly the headers that have the parts, each of which has them in one way. -/
theorem ofAuthorization?_eq_some_iff (scheme authorization : String) :
    (∀ credential, ofAuthorization? scheme authorization = some credential ↔
      ∃ p : Parts scheme, p.text = authorization ∧ p.credential = credential) ∧
    ∀ p q : Parts scheme, p.text = authorization → q.text = authorization → p = q := by
  refine ⟨fun credential => ⟨exists_parts, ?_⟩, fun p q hp hq =>
    Parts.text_injective (hp.trans hq.symm)⟩
  rintro ⟨p, rfl, rfl⟩
  exact ofAuthorization?_text p

/-- Blanks of any kind part the token from the credential, and those in the credential stay. -/
example : ofAuthorization? "Bearer" "\u3000bEARER\u00a0 a  b\t" = some "a  b" := by decide

end ApiContract.Credential
