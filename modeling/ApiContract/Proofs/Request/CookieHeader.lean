import ApiContract.Proofs.Percent
import ApiContract.Proofs.Request.HeaderStore

/-! # Cookie headers, written and read back

`Cookie.write` writes cookies as `name=value` pieces with `; ` between them, where every byte of a value is
escaped that is not unreserved.  So a value shows neither blanks, quotes, semicolons nor other characters
that reading would drop or cut at, whatever they are meant to be, and a name shows none if it has none
(`Cookie.IsName`).

The cookies of a header are read as they were written (`Cookie.pairs_write`), and of those with one name the
last counts (`Cookie.readAll_write_eq_some_iff`). -/

namespace ApiContract.Cookie

/-- The characters that stand for themselves in a value. -/
def isUnreserved (c : Char) : Bool := c.isAlphanum || c ∈ "-._~".toList

/-- A cookie. -/
def writeCookie (cookie : String × String) : String :=
  cookie.1 ++ "=" ++ String.ofList (Percent.encode isUnreserved cookie.2)

/-- The header of a list of cookies. -/
def write (cookies : List (String × String)) : String := "; ".intercalate (cookies.map writeCookie)

/-- What can be the name of a cookie. -/
structure IsName (name : String) : Prop where
  nonempty : name ≠ ""
  no_semicolon : ';' ∉ name.toList
  no_equals : '=' ∉ name.toList
  /-- It has no blanks at an end. -/
  solid : Text.SolidEnds Text.isBlank name.toList

instance (name : String) : Decidable (IsName name) :=
  decidable_of_iff (name ≠ "" ∧ ';' ∉ name.toList ∧ '=' ∉ name.toList ∧
      Text.SolidEnds Text.isBlank name.toList)
    ⟨fun h => ⟨h.1, h.2.1, h.2.2.1, h.2.2.2⟩, fun h => ⟨h.nonempty, h.no_semicolon, h.no_equals, h.solid⟩⟩

theorem plain_isUnreserved : Percent.Plain isUnreserved := by decide +kernel

/-! ### One cookie -/

/-- No character of a written value is one that reading drops or cuts at. -/
theorem of_mem_encode {c : Char} {s : String} (mem : c ∈ Percent.encode isUnreserved s) :
    Text.isBlank c = false ∧ c ≠ '"' ∧ c ≠ ';' := by
  rcases plain_isUnreserved.of_mem_encode mem with ⟨low, plain⟩ | rfl
  · exact Text.forall_ascii
      (P := fun c => isUnreserved c = true → Text.isBlank c = false ∧ c ≠ '"' ∧ c ≠ ';')
      (by decide +kernel) c low plain
  · decide

theorem value_encode (s : String) : value (Percent.encode isUnreserved s) = s := by
  have unblank : Text.trim (Percent.encode isUnreserved s) = Percent.encode isUnreserved s :=
    Text.trim_eq_self fun c mem => (of_mem_encode mem).1
  have unquoted : Text.SolidEnds (· = '"') (Percent.encode isUnreserved s) :=
    .of_forall fun c mem => decide_eq_false (of_mem_encode mem).2.1
  unfold value
  simp only [unblank, unquoted.trimBy_eq, plain_isUnreserved.decode?_encode, Option.getD_some,
    String.ofList_toList]

theorem toList_writeCookie (cookie : String × String) : (writeCookie cookie).toList =
    cookie.1.toList ++ '=' :: Percent.encode isUnreserved cookie.2 := by
  simp [writeCookie]

section named
variable {cookie : String × String} (named : IsName cookie.1)
include named

theorem IsName.solidEnds_writeCookie : Text.SolidEnds Text.isBlank (writeCookie cookie).toList := by
  have some_char : cookie.1.toList ≠ [] := Text.toList_ne_nil named.nonempty
  rw [toList_writeCookie]
  refine ⟨?_, ?_⟩
  · rw [List.head?_append_of_ne_nil _ some_char]
    exact named.solid.first
  · rw [List.getLast?_append_of_ne_nil _ (by simp), ← List.head?_reverse]
    apply Text.any_head?_eq_false
    intro c mem
    rcases List.mem_cons.1 (List.mem_reverse.1 mem) with rfl | mem
    · decide
    · exact (of_mem_encode mem).1

theorem IsName.semicolon_not_mem_writeCookie : ';' ∉ (writeCookie cookie).toList := by
  have free : ';' ∉ Percent.encode isUnreserved cookie.2 := fun mem => (of_mem_encode mem).2.2 rfl
  rw [toList_writeCookie]
  simp [named.no_semicolon, free]

theorem IsName.read?_writeCookie : read? (writeCookie cookie).toList = some cookie := by
  have whole : ∀ c ∈ cookie.1.toList, decide (c = '=') = false :=
    Text.whole_of_not_mem named.no_equals
  have cut : Text.cutAt? (· = '=') (writeCookie cookie).toList =
      some (cookie.1.toList, Percent.encode isUnreserved cookie.2) := by
    rw [toList_writeCookie]
    exact Text.cutAt?_append_cons whole (decide_eq_true rfl) _
  have name : Text.trim cookie.1.toList = cookie.1.toList := named.solid.trimBy_eq
  unfold read?
  simp only [Text.trim, named.solidEnds_writeCookie.trimBy_eq, cut, Option.getD_some]
  rw [← Text.trim, name, value_encode, String.ofList_toList]
  exact if_neg (by simp [named.nonempty])

theorem IsName.pairs_writeCookie : pairs (writeCookie cookie) = [cookie] := by
  have whole : ∀ c ∈ (writeCookie cookie).toList, decide (c = ';') = false :=
    Text.whole_of_not_mem named.semicolon_not_mem_writeCookie
  rw [pairs, Text.splitBy_eq_singleton whole, List.filterMap_cons, named.read?_writeCookie,
    List.filterMap_nil]

end named

/-! ### A whole header -/

theorem pairs_write {cookies : List (String × String)} (named : ∀ cookie ∈ cookies, IsName cookie.1) :
    pairs (write cookies) = cookies := by
  unfold write
  induction cookies with
  | nil => decide
  | cons first rest ih =>
      have firstRead : pairs (writeCookie first) = [first] :=
        (named first List.mem_cons_self).pairs_writeCookie
      have restRead := ih fun cookie mem => named cookie (List.mem_cons_of_mem _ mem)
      cases rest with
      | nil => rw [List.map_singleton, String.intercalate_singleton, firstRead]
      | cons second rest =>
          have joined : "; ".intercalate ((first :: second :: rest).map writeCookie) =
              writeCookie first ++ "; " ++ "; ".intercalate ((second :: rest).map writeCookie) := by
            rw [List.map_cons, List.map_cons, String.intercalate_cons_cons]
          rw [joined, pairs_joined, firstRead, restRead]
          rfl

example : write [("id", "7"), ("note", " \"5 %; é\" ")] = "id=7; note=%20%225%20%25%3B%20%C3%A9%22%20" := by
  decide +kernel

/-- A cookie has the value that was last written for its name, whatever the values are; and there are no
other cookies. -/
theorem readAll_write_eq_some_iff {cookies : List (String × String)}
    (named : ∀ cookie ∈ cookies, IsName cookie.1) (name value : String) :
    (readAll (write cookies)).get? name = some value ↔
      ∃ before after, cookies = before ++ (name, value) :: after ∧ ∀ cookie ∈ after, cookie.1 ≠ name := by
  rw [readAll, pairs_write named, Dict.get?_ofList, List.lookup_eq_some_iff]
  constructor
  · rintro ⟨after, before, same, others⟩
    refine ⟨before.reverse, after.reverse, ?_, ?_⟩
    · rw [← List.reverse_reverse cookies, same]
      simp
    · intro cookie mem
      exact (bne_iff_ne.1 (others cookie (List.mem_reverse.1 mem))).symm
  · rintro ⟨before, after, rfl, others⟩
    refine ⟨after.reverse, before.reverse, by simp, ?_⟩
    intro cookie mem
    exact bne_iff_ne.2 (others cookie (List.mem_reverse.1 mem)).symm

/-! ### Values that look like cookies -/

/-- Values with quotes, semicolons, blanks, signs and other scripts in them, two of them for one name. -/
def wellFilled : List (String × String) :=
  [("note", "\"x\"; id=8"), ("id", " 7 "), ("half", "50%"), ("note", "é; ü")]

theorem readAll_write_wellFilled : (∀ cookie ∈ wellFilled, IsName cookie.1) ∧
    (readAll (write wellFilled)).get? "note" = some "é; ü" ∧
    (readAll (write wellFilled)).get? "id" = some " 7 " := by
  have named : ∀ cookie ∈ wellFilled, IsName cookie.1 := by decide
  refine ⟨named, ?_, ?_⟩
  · exact (readAll_write_eq_some_iff named "note" "é; ü").2
      ⟨[("note", "\"x\"; id=8"), ("id", " 7 "), ("half", "50%")], [], rfl, by decide⟩
  · exact (readAll_write_eq_some_iff named "id" " 7 ").2
      ⟨[("note", "\"x\"; id=8")], [("half", "50%"), ("note", "é; ü")], rfl, by decide⟩

end ApiContract.Cookie
