import ApiContract.Json.Basic
import ApiContract.Proofs.Splitting

/-! # Pointers into a document

A reference within a document is a fragment that holds a JSON Pointer (RFC 6901): after the hash sign
the pointer is cut at its slashes, and in each token `~1` stands for a slash and `~0` for a tilde.  The
tokens lead from the whole value through members of objects and items of lists.

A name can be a token as it is if it has no slash and none of the two escapes in it
(`Pointer.Plain`); otherwise it reads as other tokens (`Pointer.tokens?_eq_some_iff`).  Escaped it can
always be one (`Pointer.tokens?_escape`). -/

namespace ApiContract.Pointer

/-- Puts the characters back that two escapes stand for. -/
def unescape : List Char → List Char
  | '~' :: '1' :: rest => '/' :: unescape rest
  | '~' :: '0' :: rest => '~' :: unescape rest
  | c :: rest => c :: unescape rest
  | [] => []

/-- The escape of a character that needs one. -/
def escapeChar (c : Char) : List Char :=
  if c = '/' then ['~', '1'] else if c = '~' then ['~', '0'] else [c]

/-- A text that can be a token. -/
def escape (name : String) : String := String.ofList (name.toList.flatMap escapeChar)

/-- The tokens of a fragment, if it holds a pointer. -/
def tokens? (fragment : String) : Option (List String) :=
  match fragment.toList with
  | '#' :: pointer =>
    match Text.splitBy (· = '/') pointer with
    | [] :: tokens => some (tokens.map fun token => String.ofList (unescape token))
    | _ => none
  | _ => none

/-- The member of an object, or the item of a list, that a token leads to. -/
def child? (v : Json) (token : String) : Option Json :=
  match v with
  | .arr items => (items.zipIdx.find? fun item => toString item.2 = token).map Prod.fst
  | v => v.get? token

/-- The value that a fragment leads to. -/
def resolve? (v : Json) (fragment : String) : Option Json :=
  (tokens? fragment).bind fun tokens => tokens.foldlM child? v

/-- A name that is read as itself. -/
def Plain (name : String) : Prop :=
  '/' ∉ name.toList ∧ ¬ ['~', '1'] <:+: name.toList ∧ ¬ ['~', '0'] <:+: name.toList

instance (name : String) : Decidable (Plain name) := inferInstanceAs (Decidable (_ ∧ _ ∧ _))

/-! ### Escapes -/

theorem unescape_escapeChar (c : Char) (rest : List Char) :
    unescape (escapeChar c ++ rest) = c :: unescape rest := by
  by_cases slash : c = '/'
  · subst slash
    rfl
  · by_cases tilde : c = '~'
    · subst tilde
      rfl
    · rw [escapeChar, if_neg slash, if_neg tilde, List.singleton_append, unescape]
      · exact fun rest same => absurd same tilde
      · exact fun rest same => absurd same tilde

theorem unescape_escape (cs : List Char) : unescape (cs.flatMap escapeChar) = cs := by
  induction cs with
  | nil => rfl
  | cons c cs ih => rw [List.flatMap_cons, unescape_escapeChar, ih]

theorem slash_not_mem_escape (cs : List Char) : '/' ∉ cs.flatMap escapeChar := by
  intro mem
  obtain ⟨c, -, mem⟩ := List.mem_flatMap.1 mem
  unfold escapeChar at mem
  split at mem
  · revert mem
    decide
  · next other =>
    split at mem
    · revert mem
      decide
    · exact other (List.mem_singleton.1 mem).symm

theorem length_unescape_le (cs : List Char) : (unescape cs).length ≤ cs.length := by
  fun_induction unescape cs with
  | case1 rest ih | case2 rest ih | case3 c rest _ _ ih => simp only [List.length_cons]; omega
  | case4 => exact Nat.le_refl _

theorem unescape_eq_self_iff (cs : List Char) :
    unescape cs = cs ↔ ¬ ['~', '1'] <:+: cs ∧ ¬ ['~', '0'] <:+: cs := by
  fun_induction unescape cs with
  | case1 rest ih =>
      refine ⟨fun same => ?_, fun none => absurd ⟨[], rest, rfl⟩ none.1⟩
      exact absurd (List.cons.inj same).1 (by decide)
  | case2 rest ih =>
      refine ⟨fun same => ?_, fun none => absurd ⟨[], rest, rfl⟩ none.2⟩
      have short := length_unescape_le rest
      rw [(List.cons.inj same).2, List.length_cons] at short
      omega
  | case3 c rest noSlash noTilde ih =>
      have first {d : Char} (none : ∀ r, c = '~' → rest = d :: r → False) :
          ¬ ['~', d] <+: c :: rest := by
        rintro ⟨r, same⟩
        obtain ⟨tilde, tail⟩ := List.cons.inj same
        exact none r tilde.symm tail.symm
      rw [List.cons.injEq, List.infix_cons_iff, List.infix_cons_iff, ih]
      simp [first noSlash, first noTilde]
  | case4 => simp

/-! ### Tokens -/

/-- A reference to a schema leads through the components and the schemas to wherever the pieces of its
name lead. -/
theorem tokens?_append (name : String) : tokens? ("#/components/schemas/" ++ name) =
    some ("components" :: "schemas" ::
      (Text.splitBy (· = '/') name.toList).map fun token => String.ofList (unescape token)) := by
  have text : ("#/components/schemas/" ++ name).toList =
      '#' :: ([] ++ '/' :: ("components".toList ++ '/' ::
        ("schemas".toList ++ '/' :: name.toList))) := by
    rw [String.toList_append]
    rfl
  rw [tokens?, text]
  have cut (piece rest : List Char) (free : '/' ∉ piece) :
      Text.splitBy (· = '/') (piece ++ '/' :: rest) = piece :: Text.splitBy (· = '/') rest :=
    Text.splitBy_append_cons (Text.whole_of_not_mem free) (decide_eq_true rfl) rest
  simp only [cut [] _ (by decide), cut "components".toList _ (by decide),
    cut "schemas".toList _ (by decide)]
  rfl

/-- The reference to a schema is read with the name of the schema if and only if the name is plain. -/
theorem tokens?_eq_some_iff {name : String} :
    tokens? ("#/components/schemas/" ++ name) = some ["components", "schemas", name] ↔ Plain name := by
  rw [tokens?_append]
  simp only [Option.some.injEq, List.cons.injEq, true_and]
  rw [List.map_eq_singleton_iff]
  constructor
  · rintro ⟨piece, single, read⟩
    obtain ⟨free, rfl⟩ := Text.splitBy_eq_singleton_iff.1 single
    have same := congrArg String.toList read
    rw [String.toList_ofList] at same
    exact ⟨free, (unescape_eq_self_iff _).1 same⟩
  · rintro ⟨free, escapes⟩
    refine ⟨name.toList, Text.splitBy_eq_singleton_iff.2 ⟨free, rfl⟩, ?_⟩
    rw [(unescape_eq_self_iff _).2 escapes, String.ofList_toList]

theorem tokens?_escape (name : String) :
    tokens? ("#/components/schemas/" ++ escape name) = some ["components", "schemas", name] := by
  rw [tokens?_append, escape, String.toList_ofList,
    Text.splitBy_eq_singleton_iff.2 ⟨slash_not_mem_escape name.toList, rfl⟩, List.map_singleton,
    unescape_escape, String.ofList_toList]

/-! ### Resolution -/

theorem child?_of_get? {v w : Json} {token : String} (h : v.get? token = some w) :
    child? v token = some w := by
  cases v with
  | arr items => cases h
  | _ => exact h

theorem resolve?_of_tokens {v shared schemas w : Json} {fragment name : String}
    (read : tokens? fragment = some ["components", "schemas", name])
    (components : v.get? "components" = some shared) (listed : shared.get? "schemas" = some schemas)
    (held : schemas.get? name = some w) : resolve? v fragment = some w := by
  rw [resolve?, read, Option.bind_some]
  simp only [List.foldlM_cons, List.foldlM_nil, child?_of_get? components, child?_of_get? listed,
    child?_of_get? held, Option.bind_eq_bind, Option.bind_some, Option.pure_def]

end ApiContract.Pointer
