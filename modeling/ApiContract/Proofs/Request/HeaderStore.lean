import ApiContract.Proofs.HeaderName
import ApiContract.Proofs.Splitting
import ApiContract.Proofs.Trimming
import ApiContract.Request.Basic

/-! # Headers and cookies of a request

A request stores its headers by transport key, the values of a repeated one joined, and beside them the
cookies that its cookie headers have named.  A cookie header is thus kept twice: as one joined text, and as
the cookies of each of its values, where the last one of a name counts.

The two stay in step (`Request.CookiesInStep.withHeader`), since a joined text has the cookies of its parts
(`Cookie.pairs_joined`).  `Request.headers_inStep` says what any sequence of headers leaves behind. -/

namespace ApiContract

namespace Cookie

theorem read?_cons {c : Char} (blank : Text.isBlank c = true) (piece : List Char) :
    read? (c :: piece) = read? piece := by
  rw [read?, Text.trim_cons blank, ← read?]

theorem pairs_joined (first second : String) :
    pairs (first ++ "; " ++ second) = pairs first ++ pairs second := by
  have written : (first ++ "; " ++ second).toList = first.toList ++ ';' :: ' ' :: second.toList := by
    simp
  obtain ⟨piece, pieces, cut⟩ :=
    List.exists_cons_of_ne_nil (Text.splitBy_ne_nil (· = ';') second.toList)
  have spaced : Text.splitBy (· = ';') (' ' :: second.toList) = (' ' :: piece) :: pieces := by
    rw [Text.splitBy, cut]
    rfl
  rw [pairs, pairs, pairs, written, Text.splitBy_append_cut (decide_eq_true rfl), spaced, cut,
    List.filterMap_append, List.filterMap_cons, List.filterMap_cons, read?_cons (by decide)]

theorem readAll_eq_insertAll (header : String) : readAll header = Dict.empty.insertAll (pairs header) := by
  refine Dict.ext_get? fun key => ?_
  rw [readAll, Dict.get?_ofList, Dict.get?_insertAll]
  exact Option.or_none.symm

/-- The cookies of joined headers are those of the first, and then those of the second. -/
theorem readAll_joined (first second : String) :
    readAll (first ++ "; " ++ second) = (readAll first).insertAll (pairs second) := by
  refine Dict.ext_get? fun key => ?_
  rw [readAll, pairs_joined, Dict.get?_ofList, Dict.get?_insertAll, readAll, Dict.get?_ofList,
    List.reverse_append, List.lookup_append]

end Cookie

namespace Header

/-- The values sent for a header, in order. -/
def valuesOf (name : String) (sent : List (String × String)) : List String :=
  (sent.filter fun h => capitals h.1 = capitals name).map Prod.snd

/-- Values with a separator between them, if there are any. -/
def joined? (separator : String) : List String → Option String
  | [] => none
  | values => some (separator.intercalate values)

/-- What is stored of a header once another value has been sent. -/
def extended (separator value : String) : Option String → String
  | some stored => stored ++ separator ++ value
  | none => value

theorem joined?_concat (separator : String) (values : List String) (value : String) :
    joined? separator (values ++ [value]) =
      some (extended separator value (joined? separator values)) := by
  cases values with
  | nil => exact congrArg some String.intercalate_singleton
  | cons first rest =>
      show some (separator.intercalate (first :: rest ++ [value])) =
        some (separator.intercalate (first :: rest) ++ separator ++ value)
      rw [String.intercalate_append_of_ne_nil (by simp) (by simp), String.intercalate_singleton]

theorem valuesOf_concat (name : String) (sent : List (String × String)) (h : String × String) :
    valuesOf name (sent ++ [h]) =
      valuesOf name sent ++ if capitals h.1 = capitals name then [h.2] else [] := by
  rw [valuesOf, valuesOf, List.filter_append, List.map_append]
  by_cases same : capitals h.1 = capitals name <;> simp [same]

theorem joined?_eq_some_iff {separator text : String} {values : List String} :
    joined? separator values = some text ↔ values ≠ [] ∧ text = separator.intercalate values := by
  cases values with
  | nil => simp [joined?]
  | cons first rest => simp [joined?, eq_comm]

theorem valuesOf_ne_nil_iff {name : String} {sent : List (String × String)} :
    valuesOf name sent ≠ [] ↔ ∃ h ∈ sent, capitals h.1 = capitals name := by
  simp [valuesOf, List.filter_eq_nil_iff]

theorem separator_congr {m n : String} (same : capitals m = capitals n) :
    separator m = separator n := by
  have cookies : isCookie m = isCookie n := by
    rw [Bool.eq_iff_iff, isCookie_iff, isCookie_iff, same]
  rw [separator, separator, cookies]

end Header

namespace Request

/-- A request with headers added, in order. -/
def withHeaders (r : Request) (sent : List (String × String)) : Request :=
  sent.foldl (fun r h => r.withHeader h.1 h.2) r

theorem withHeaders_concat (r : Request) (sent : List (String × String)) (h : String × String) :
    r.withHeaders (sent ++ [h]) = (r.withHeaders sent).withHeader h.1 h.2 := by
  rw [withHeaders, List.foldl_append]
  rfl

theorem get?_withHeader (r : Request) (name value key : String) :
    (r.withHeader name value).headers.get? key =
      if key = Header.transportKey name then
        some (Header.extended (Header.separator name) value (r.headers.get? key))
      else r.headers.get? key := by
  rw [withHeader, Dict.get?_insert]
  split
  · next same =>
    subst same
    rfl
  · rfl

/-- A header has the values that were sent for it, joined. -/
theorem get?_withHeaders {sent : List (String × String)} (bare : ∀ h ∈ sent, Header.IsBare h.1)
    {name : String} (named : Header.IsBare name) :
    (empty.withHeaders sent).headers.get? (Header.transportKey name) =
      Header.joined? (Header.separator name) (Header.valuesOf name sent) := by
  induction sent using List.reverseRecOn with
  | nil => rfl
  | append_singleton sent h ih =>
      have known := ih fun other mem => bare other (List.mem_append_left _ mem)
      have key : Header.transportKey name = Header.transportKey h.1 ↔
          Header.capitals h.1 = Header.capitals name := by
        rw [named.transportKey_eq_iff (bare h (by simp)), eq_comm]
      rw [withHeaders_concat, get?_withHeader, known, Header.valuesOf_concat]
      by_cases same : Header.capitals h.1 = Header.capitals name
      · rw [if_pos same, if_pos (key.2 same), Header.joined?_concat, Header.separator_congr same]
      · rw [if_neg same, if_neg (mt key.1 same), List.append_nil]

/-! ### Cookies in step with the cookie header -/

/-- The cookies are those of the stored cookie header; without one there are none. -/
def CookiesInStep (r : Request) : Prop :=
  r.cookies = (r.headers.get? "HTTP_COOKIE").elim Dict.empty Cookie.readAll

theorem CookiesInStep.withHeader {r : Request} (inStep : r.CookiesInStep) {name : String}
    (bare : Header.IsBare name) (value : String) : (r.withHeader name value).CookiesInStep := by
  have cookieKey : Header.transportKey "cookie" = "HTTP_COOKIE" := by decide
  have key : "HTTP_COOKIE" = Header.transportKey name ↔ Header.isCookie name = true := by
    rw [Header.isCookie_iff, ← cookieKey, Header.IsBare.transportKey_eq_iff (by decide) bare, eq_comm]
  unfold CookiesInStep at inStep ⊢
  rw [get?_withHeader]
  by_cases cookie : Header.isCookie name = true
  · have joined : (r.withHeader name value).cookies = r.cookies.insertAll (Cookie.pairs value) :=
      if_pos cookie
    rw [joined, if_pos (key.2 cookie), Header.separator, if_pos cookie, inStep, Option.elim_some]
    cases r.headers.get? "HTTP_COOKIE" with
    | none => exact (Cookie.readAll_eq_insertAll value).symm
    | some stored => exact (Cookie.readAll_joined stored value).symm
  · have kept : (r.withHeader name value).cookies = r.cookies := if_neg cookie
    rw [kept, if_neg (mt key.1 cookie), inStep]

theorem CookiesInStep.withHeaders {r : Request} (inStep : r.CookiesInStep)
    {sent : List (String × String)} (bare : ∀ h ∈ sent, Header.IsBare h.1) :
    (r.withHeaders sent).CookiesInStep := by
  induction sent using List.reverseRecOn with
  | nil => exact inStep
  | append_singleton sent h ih =>
      rw [withHeaders_concat]
      exact (ih fun other mem => bare other (List.mem_append_left _ mem)).withHeader
        (bare h (by simp)) h.2

theorem cookiesInStep_empty : empty.CookiesInStep := rfl

theorem ofHttp?_cookiesInStep {target : String} {headers : List (String × List UInt8)}
    {body : Option Json} {r : Request} (sent : ofHttp? target headers body = some r) :
    r.CookiesInStep := by
  obtain ⟨query, -, sent⟩ := Option.bind_eq_some_iff.1 sent
  split at sent
  · next valid =>
    cases sent
    have lowered : ∀ h ∈ groupHeaders headers, Header.IsBare h.1 := by
      intro h mem
      obtain ⟨name, -, mem⟩ := List.mem_flatMap.1 mem
      obtain ⟨sent, present, rfl⟩ := List.mem_map.1 (List.mem_filter.1 mem).1
      have fit := List.all_eq_true.1 valid sent present
      exact Header.isBare_lowerAscii (Bool.and_eq_true .. ▸ fit).1
    let decoded (h : String × List UInt8) := (h.1, String.ofList (Utf8.decodeLossy h.2))
    have bare : ∀ h ∈ (groupHeaders headers).map decoded, Header.IsBare h.1 := by
      intro h mem
      obtain ⟨sent, present, rfl⟩ := List.mem_map.1 mem
      exact lowered sent present
    have start : CookiesInStep { empty with query := query, body := body } := rfl
    have inStep := start.withHeaders bare
    rwa [withHeaders, List.foldl_map] at inStep
  · cases sent

/-- Whatever headers are added to an empty request: a header is there if one of its name has been added,
with all values added for it in order, and the cookies are those of the cookie header as it is stored. -/
theorem headers_inStep {sent : List (String × String)} (bare : ∀ h ∈ sent, Header.IsBare h.1)
    (limit : Nat) :
    (∀ name, Header.IsBare name → ∀ text,
      ((empty.withHeaders sent).view limit).header (Header.transportKey name) = some text ↔
        (∃ h ∈ sent, Header.capitals h.1 = Header.capitals name) ∧
          text = (if Text.lowerAscii name = "cookie" then "; " else ", ").intercalate
            (Header.valuesOf name sent)) ∧
    (empty.withHeaders sent).cookies =
      (((empty.withHeaders sent).view limit).header "HTTP_COOKIE").elim Dict.empty Cookie.readAll := by
  refine ⟨fun name named text => ?_, cookiesInStep_empty.withHeaders bare⟩
  have separator : Header.separator name = if Text.lowerAscii name = "cookie" then "; " else ", " := by
    have lower : Text.lowerAscii "cookie" = "cookie" := by decide
    simp [Header.separator, Header.isCookie, Text.sameAscii, lower]
  show (empty.withHeaders sent).headers.get? (Header.transportKey name) = some text ↔ _
  rw [get?_withHeaders bare named, Header.joined?_eq_some_iff, Header.valuesOf_ne_nil_iff, separator]

/-! ### Repeated headers -/

/-- Two headers, each sent twice under two spellings of its name. -/
def repeated : List (String × String) :=
  [("Cookie", "a=1"), ("X-Tag", "u"), ("COOKIE", "b=2; a=3"), ("x_tag", "v")]

theorem repeated_inStep : (∀ h ∈ repeated, Header.IsBare h.1) ∧ Header.IsBare "x-tag" ∧
    ((empty.withHeaders repeated).view 32).header "HTTP_X_TAG" = some "u, v" ∧
    (empty.withHeaders repeated).cookies = Cookie.readAll "a=1; b=2; a=3" := by
  have bare : ∀ h ∈ repeated, Header.IsBare h.1 := by decide
  obtain ⟨headers, cookies⟩ := headers_inStep bare 32
  have tag := (headers "x-tag" (by decide) "u, v").2 ⟨⟨("X-Tag", "u"), by decide, by decide⟩, by decide⟩
  have cookie := (headers "cookie" (by decide) "a=1; b=2; a=3").2
    ⟨⟨("Cookie", "a=1"), by decide, by decide⟩, by decide⟩
  refine ⟨bare, by decide, tag, ?_⟩
  rw [cookies, show "HTTP_COOKIE" = Header.transportKey "cookie" by decide, cookie, Option.elim_some]

end Request
end ApiContract
