import ApiContract.Proofs.Parameter
import ApiContract.Proofs.Parameter.ObjectText

/-! # The pairs of a query parameter

A query parameter is put together from the pairs whose keys carry its name.

* With the style of deep objects the keys `name[property]` make an object, which goes on as its JSON text.
  A map of texts reads it back, so each property has the value of the last pair that names it, whatever
  the texts are (`Parameter.retrieve_deepObject`).
* A list takes the values of the keys `name` and `name[]` in order (`Parameter.retrieve_repeated`).  Where
  its style is that of deep objects, `name[]` also names a property, the one with the empty name; and as
  soon as a property is named, the list is cut out of the JSON text of the object
  (`Parameter.tags_collected_as_object`). -/

namespace ApiContract

namespace Text

theorem after?_eq_some_iff {start cs rest : List Char} :
    after? start cs = some rest ↔ cs = start ++ rest := by
  induction start generalizing cs with
  | nil => simp [after?]
  | cons a start ih =>
      cases cs with
      | nil => simp [after?]
      | cons c cs =>
          rw [after?]
          split
          · next same => simp [ih, same]
          · next other => simp [Ne.symm other]

theorem before?_eq_some_iff {tail cs rest : List Char} :
    before? tail cs = some rest ↔ cs = rest ++ tail := by
  rw [before?, Option.map_eq_some_iff]
  constructor
  · rintro ⟨reversed, found, rfl⟩
    rw [after?_eq_some_iff] at found
    rw [← List.reverse_reverse cs, found, List.reverse_append, List.reverse_reverse]
  · rintro rfl
    exact ⟨rest.reverse, after?_eq_some_iff.2 List.reverse_append, List.reverse_reverse rest⟩

theorem exists_splitBy_cons {p : Char → Bool} {c : Char} (whole : p c = false) (cs : List Char) :
    ∃ piece pieces, splitBy p (c :: cs) = (c :: piece) :: pieces := by
  rw [splitBy, whole]
  cases splitBy p cs with
  | nil => exact ⟨[], [], rfl⟩
  | cons piece pieces => exact ⟨piece, pieces, rfl⟩

theorem exists_trim_cons {c : Char} (solid : isBlank c = false) (cs : List Char) :
    ∃ kept, trim (c :: cs) = c :: kept := by
  rw [trim, trimBy, dropEnd, List.dropWhile_cons, solid, if_neg Bool.false_ne_true, List.reverse_cons,
    List.dropWhile_append]
  split
  · exact ⟨[], by rw [List.dropWhile_cons, solid]; rfl⟩
  · exact ⟨_, by rw [List.reverse_append]; rfl⟩

end Text

namespace Parameter
variable {name key prop : String} {pairs : List (String × String)}

/-! ### Keys of properties -/

/-- The key that names a property. -/
def deepKey (name prop : String) : String := name ++ "[" ++ prop ++ "]"

theorem deepProperty?_eq_some_iff : deepProperty? name key = some prop ↔ key = deepKey name prop := by
  have written : (deepKey name prop).toList = name.toList ++ ['['] ++ (prop.toList ++ [']']) := by
    simp [deepKey]
  rw [← String.toList_inj, written]
  simp only [deepProperty?, Option.bind_eq_bind, Option.bind_eq_some_iff, Text.after?_eq_some_iff,
    Text.before?_eq_some_iff]
  constructor
  · rintro ⟨_, same, chars, rfl, found⟩
    obtain rfl := Option.some.inj found
    rw [same, String.toList_ofList]
  · intro same
    exact ⟨_, same, prop.toList, rfl, congrArg some String.ofList_toList⟩

/-- The properties that are named, with the values of the pairs. -/
def deepPairs (name : String) (pairs : List (String × String)) : List (String × String) :=
  pairs.filterMap fun pair => (deepProperty? name pair.1).map fun prop => (prop, pair.2)

theorem deepMembers_eq_textMembers (name : String) (pairs : List (String × String)) :
    deepMembers name pairs = Json.textMembers (deepPairs name pairs) := by
  rw [Json.textMembers, deepPairs, List.map_filterMap]
  simp only [Option.map_map]
  rfl

theorem deepPairs_cons (value : String) :
    deepPairs name ((key, value) :: pairs) =
      ((deepProperty? name key).map fun prop => (prop, value)).toList ++ deepPairs name pairs := by
  rw [deepPairs, List.filterMap_cons]
  dsimp only
  cases deepProperty? name key <;> rfl

theorem lookup_deepPairs (name prop : String) (pairs : List (String × String)) :
    (deepPairs name pairs).lookup prop = pairs.lookup (deepKey name prop) := by
  induction pairs with
  | nil => rfl
  | cons pair pairs ih =>
      obtain ⟨key, value⟩ := pair
      rw [deepPairs_cons, Entries.lookup_cons, ← ih]
      cases named : deepProperty? name key with
      | none =>
          have other : deepKey name prop ≠ key := by
            rintro rfl
            rw [deepProperty?_eq_some_iff.2 rfl] at named
            cases named
          rw [if_neg other]
          rfl
      | some q =>
          have same : prop = q ↔ deepKey name prop = key := by
            rw [eq_comm, ← Option.some_inj, ← named, deepProperty?_eq_some_iff, eq_comm]
          exact (Entries.lookup_cons prop q value _).trans (by simp only [same]; rfl)

/-- Each property that is named has the value of the last pair that names it. -/
theorem get?_deepPairs (name prop : String) (pairs : List (String × String)) :
    (Dict.ofList (deepPairs name pairs)).get? prop = pairs.reverse.lookup (deepKey name prop) := by
  rw [Dict.get?_ofList, ← lookup_deepPairs, deepPairs, deepPairs, List.filterMap_reverse]

/-- Some pair names a property. -/
def NamesProperty (name : String) (pairs : List (String × String)) : Prop :=
  ∃ prop, deepKey name prop ∈ pairs.map Prod.fst

theorem deepPairs_eq_nil_iff : deepPairs name pairs = [] ↔ ¬ NamesProperty name pairs := by
  rw [deepPairs, List.filterMap_eq_nil_iff]
  simp only [Option.map_eq_none_iff]
  simp only [Option.eq_none_iff_forall_ne_some, Ne, deepProperty?_eq_some_iff]
  constructor
  · rintro unnamed ⟨prop, listed⟩
    obtain ⟨pair, mem, same⟩ := List.mem_map.1 listed
    exact unnamed pair mem prop same
  · intro unnamed pair mem prop same
    exact unnamed ⟨prop, List.mem_map.2 ⟨pair, mem, same⟩⟩

theorem deepMembers_eq_nil_iff : deepMembers name pairs = [] ↔ ¬ NamesProperty name pairs := by
  rw [deepMembers_eq_textMembers, Json.textMembers, List.map_eq_nil_iff, deepPairs_eq_nil_iff]

/-! ### The raw value -/

/-- The values of the keys `name` and `name[]`, in order. -/
def valuesOf (name : String) (pairs : List (String × String)) : List String :=
  (pairs.filter fun pair => pair.1 = name ∨ pair.1 = name ++ "[]").map Prod.snd

section query
variable {p : Parameter} {view : RequestView} {captures : Captures}

theorem raw_of_query (source : p.source = .query) (parsed : view.pairs = .ok pairs) :
    p.raw view captures = .ok (p.queryRaw pairs) := by
  rw [raw, source, parsed]
  rfl

/-- With the style of deep objects the properties go on as the JSON text of an object. -/
theorem queryRaw_of_namesProperty (deep : p.style = .deepObject) (named : NamesProperty p.name pairs) :
    p.queryRaw pairs = some (.single (Json.ofTexts (Dict.ofList (deepPairs p.name pairs))).compact) := by
  have some_member : (deepMembers p.name pairs).isEmpty = false := by
    rw [List.isEmpty_eq_false_iff]
    exact fun none => deepMembers_eq_nil_iff.1 none named
  rw [queryRaw]
  simp only [if_pos deep, some_member]
  rw [deepMembers_eq_textMembers, Json.object_textMembers]
  rfl

theorem queryRaw_of_list {element : Descriptor} (list : p.type.collectionElement? = some element)
    (plain : p.style = .deepObject → ¬ NamesProperty p.name pairs) :
    p.queryRaw pairs = rawOf (valuesOf p.name pairs) := by
  have no_member : (if p.style = .deepObject then deepMembers p.name pairs else []) = [] := by
    split
    · next deep => exact deepMembers_eq_nil_iff.2 (plain deep)
    · rfl
  rw [queryRaw]
  simp only [no_member, list, isKey, valuesOf, List.isEmpty_nil, if_true, Option.isSome_some,
    Bool.true_and, Bool.decide_or]
  rfl

end query
end Parameter

/-! ### Reading texts as texts -/

namespace Descriptor

theorem coerce_textList (c : Catalog) (texts : List String) :
    coerce c (.array (.leaf .string)) (textList texts) = .ok (textList texts) := by
  refine coerce_array_eq_ok_iff.2 ⟨texts.map .str, texts.map .str, rfl, rfl, ?_⟩
  rw [List.map_map, List.map_map]
  exact List.map_congr_left fun text _ => coerce_leaf_eq_ok_iff.2 rfl

theorem coerce_ofTexts (c : Catalog) (d : Dict String) :
    coerce c (.map (.leaf .string) (.leaf .string)) (.ofTexts d) = .ok (.ofTexts d) := by
  have members : Json.object (Json.textMembers d.entries) = .ofTexts d :=
    congrArg Json.obj (Entries.ofList_of_sorted (Json.sorted_textMembers d.sorted))
  refine coerce_map_eq_ok_iff.2 ⟨_, _, rfl, members, ?_⟩
  rw [Json.textMembers, List.map_map, List.map_map]
  refine List.map_congr_left fun m _ => ?_
  have text (s : String) : coerce c (.leaf .string) (.str s) = .ok (.str s) :=
    coerce_leaf_eq_ok_iff.2 rfl
  exact entryResult_eq_ok_iff.2 ⟨_, _, text m.1, text m.2, rfl⟩

end Descriptor

namespace Parameter

section query
variable {c : Catalog} {p : Parameter} {view : RequestView} {captures : Captures}
  {pairs : List (String × String)}

/-- A map of texts with the style of deep objects has the properties that the query string names and no
others, each with the value of the last pair that names it. -/
theorem retrieve_deepObject (source : p.source = .query) (deep : p.style = .deepObject)
    (typed : p.type = .map (.leaf .string) (.leaf .string)) (parsed : view.pairs = .ok pairs)
    (named : NamesProperty p.name pairs) :
    ∃ d : Dict String, p.retrieve c view captures = .ok (some (.ofTexts d)) ∧
      ∀ prop, d.get? prop = pairs.reverse.lookup (deepKey p.name prop) := by
  refine ⟨Dict.ofList (deepPairs p.name pairs), ?_, fun prop => get?_deepPairs p.name prop pairs⟩
  have wire : p.raw view captures =
      .ok (some (.single (Json.ofTexts (Dict.ofList (deepPairs p.name pairs))).compact)) := by
    rw [raw_of_query source parsed, queryRaw_of_namesProperty deep named]
  have read : p.readRaw c (.single (Json.ofTexts (Dict.ofList (deepPairs p.name pairs))).compact) =
      .ok (.ofTexts (Dict.ofList (deepPairs p.name pairs))) := by
    rw [readRaw_eq_ok_iff, typed, candidate_ofTexts _ rfl rfl]
    exact Descriptor.coerce_ofTexts c _
  rw [retrieve_of_raw wire, read]
  rfl

theorem retrieve_textList {raw : RawValue} {texts : List String}
    (list : p.type = .array (.leaf .string)) (wire : p.raw view captures = .ok (some raw))
    (cut : candidate raw p.type p.style = textList texts) :
    p.retrieve c view captures = .ok (some (textList texts)) := by
  have read : p.readRaw c raw = .ok (textList texts) := by
    rw [readRaw_eq_ok_iff, cut, list]
    exact Descriptor.coerce_textList c texts
  rw [retrieve_of_raw wire, read]
  rfl

theorem rawOf_of_two {texts : List String} (several : 2 ≤ texts.length) :
    rawOf texts = some (.many texts) := by
  match texts, several with
  | _ :: _ :: _, _ => rfl

theorem candidate_many {texts : List String} (several : 2 ≤ texts.length) {ty element : Descriptor}
    (list : ty.collectionElement? = some element) (style : Style) :
    candidate (.many texts) ty style = textList texts := by
  match texts, several with
  | _ :: _ :: _, _ => rw [candidate.eq_def, list]

/-- What stands between the commas of the JSON text of the named properties. -/
def fragments (name : String) (pairs : List (String × String)) : List String :=
  splitItems .deepObject (Json.ofTexts (Dict.ofList (deepPairs name pairs))).compact

theorem exists_fragments_eq_cons (name : String) (pairs : List (String × String)) :
    ∃ first rest, fragments name pairs = first :: rest ∧ first.toList.head? = some '{' := by
  obtain ⟨cs, written⟩ : ∃ cs,
      (Json.ofTexts (Dict.ofList (deepPairs name pairs))).compact.toList = '{' :: cs := by
    rw [Json.compact, String.toList_ofList, Json.ofTexts]
    cases Json.textMembers (Dict.ofList (deepPairs name pairs)).entries with
    | nil => exact ⟨_, rfl⟩
    | cons m ms => exact ⟨_, rfl⟩
  obtain ⟨piece, pieces, cut⟩ := Text.exists_splitBy_cons (p := (· = ',')) (c := '{') rfl cs
  obtain ⟨kept, trimmed⟩ := Text.exists_trim_cons (c := '{') rfl piece
  have begun : fragments name pairs = String.ofList ('{' :: kept) ::
      ((pieces.map Text.trim).filter fun piece => !piece.isEmpty).map String.ofList := by
    rw [fragments, splitItems, written]
    show (((Text.splitBy (· = ',') ('{' :: cs)).map Text.trim).filter _).map _ = _
    rw [cut, List.map_cons, trimmed]
    rfl
  exact ⟨_, _, begun, by rw [String.toList_ofList]; rfl⟩

theorem retrieve_fragments (source : p.source = .query) (deep : p.style = .deepObject)
    (list : p.type = .array (.leaf .string)) (parsed : view.pairs = .ok pairs)
    (named : NamesProperty p.name pairs) :
    p.retrieve c view captures = .ok (some (textList (fragments p.name pairs))) := by
  refine retrieve_textList list
    ((raw_of_query source parsed).trans (congrArg _ (queryRaw_of_namesProperty deep named))) ?_
  rw [list, deep]
  rfl

/-- A list that several pairs carry has their values in order, unless its style is that of deep objects
and a property is named: then it has the fragments of the JSON text of the properties. -/
theorem retrieve_repeated (source : p.source = .query) (list : p.type = .array (.leaf .string))
    (parsed : view.pairs = .ok pairs) (repeated : 2 ≤ (valuesOf p.name pairs).length) :
    ((p.style = .deepObject → ¬ NamesProperty p.name pairs) →
      p.retrieve c view captures = .ok (some (textList (valuesOf p.name pairs)))) ∧
    (p.style = .deepObject → NamesProperty p.name pairs →
      p.retrieve c view captures = .ok (some (textList (fragments p.name pairs))) ∧
      ∃ first rest, fragments p.name pairs = first :: rest ∧ first.toList.head? = some '{') := by
  constructor
  · intro plain
    have element : p.type.collectionElement? = some (.leaf .string) := by rw [list]; rfl
    have wire : p.raw view captures = .ok (some (.many (valuesOf p.name pairs))) := by
      rw [raw_of_query source parsed, queryRaw_of_list element plain, rawOf_of_two repeated]
    exact retrieve_textList list wire (candidate_many repeated element p.style)
  · intro deep named
    exact ⟨retrieve_fragments source deep list parsed named, exists_fragments_eq_cons p.name pairs⟩

end query

/-! ### Tags and filters -/

/-- A request with these pairs in its query string. -/
def asking (pairs : List (String × String)) : RequestView where
  pairs := .ok pairs
  header _ := none
  cookie _ := none
  body := none

/-- The tags to search for. -/
def tags : Parameter :=
  ⟨"tags", .query, .array (.leaf .string), .deepObject, false, none, false⟩

/-- Two tags among other pairs. -/
def tagPairs : List (String × String) := [("tags", "red"), ("page", "2"), ("tags", "dark, blue")]

theorem retrieve_tags :
    valuesOf tags.name tagPairs = ["red", "dark, blue"] ∧ ¬ NamesProperty tags.name tagPairs ∧
    tags.retrieve ⟨[]⟩ (asking tagPairs) [] = .ok (some (textList ["red", "dark, blue"])) := by
  have unnamed : ¬ NamesProperty tags.name tagPairs := deepPairs_eq_nil_iff.1 (by decide)
  have values : valuesOf tags.name tagPairs = ["red", "dark, blue"] := by decide
  refine ⟨values, unnamed, ?_⟩
  rw [← values]
  exact (retrieve_repeated rfl rfl rfl (by decide)).1 fun _ => unnamed

/-- Two tags in the keys that a list may have. -/
def bracketPairs : List (String × String) := [("tags[]", "red"), ("tags[]", "blue")]

/-- They name the property with the empty name, so what is collected is the JSON text of an object that
has the second alone. -/
theorem tags_collected_as_object :
    valuesOf tags.name bracketPairs = ["red", "blue"] ∧
    tags.retrieve ⟨[]⟩ (asking bracketPairs) [] =
      .ok (some (textList ["\x7b\"\":\"blue\"\x7d"])) ∧
    tags.retrieve ⟨[]⟩ (asking bracketPairs) [] ≠
      .ok (some (textList (valuesOf tags.name bracketPairs))) := by
  have values : valuesOf tags.name bracketPairs = ["red", "blue"] := by decide
  have named : NamesProperty tags.name bracketPairs := ⟨"", by decide⟩
  have cut : fragments tags.name bracketPairs = ["\x7b\"\":\"blue\"\x7d"] := by decide
  have collected : tags.retrieve ⟨[]⟩ (asking bracketPairs) [] =
      .ok (some (textList ["\x7b\"\":\"blue\"\x7d"])) := by
    rw [← cut]
    exact retrieve_fragments rfl rfl rfl rfl named
  refine ⟨values, collected, ?_⟩
  rw [collected, values]
  simp [textList]

/-- What to filter by, as texts. -/
def facets : Parameter :=
  ⟨"filter", .query, .map (.leaf .string) (.leaf .string), .deepObject, true, none, false⟩

/-- Properties whose names and values look like JSON text, one of them given twice. -/
def facetPairs : List (String × String) :=
  [("filter[a]]", "\",\"b\":\""), ("filter", "all"), ("filter[]", "\x7b\x7d"), ("filter[a]]", "\\\"")]

theorem retrieve_facets :
    NamesProperty facets.name facetPairs ∧
    ∃ d : Dict String, facets.retrieve ⟨[]⟩ (asking facetPairs) [] = .ok (some (.ofTexts d)) ∧
      d.get? "a]" = some "\\\"" ∧ d.get? "" = some "\x7b\x7d" ∧ d.get? "b" = none := by
  have named : NamesProperty facets.name facetPairs := ⟨"", by decide⟩
  obtain ⟨d, found, value⟩ : ∃ d : Dict String,
      facets.retrieve ⟨[]⟩ (asking facetPairs) [] = .ok (some (.ofTexts d)) ∧
      ∀ prop, d.get? prop = facetPairs.reverse.lookup (deepKey facets.name prop) :=
    retrieve_deepObject rfl rfl rfl rfl named
  refine ⟨named, d, found, ?_, ?_, ?_⟩
  · rw [value]; decide
  · rw [value]; decide
  · rw [value]; decide

end Parameter
end ApiContract
