import ApiContract.Parameter.Candidate
import ApiContract.Proofs.Splitting
import ApiContract.Proofs.Trimming

/-! # Lists written in one text

`Style.listText` writes a list of texts as each style does: the items joined by the style's separator,
behind what the style puts in front.  The candidate of a list type is the list that was written
(`candidate_listText`), if no item is empty, holds the separator or has blanks at an end, for these are
what reading drops or cuts at. -/

namespace ApiContract

namespace Style

/-- The text of a list: for matrices behind the name. -/
def listText (name : String) (items : List String) : Style → String
  | .form | .simple | .deepObject => ",".intercalate items
  | .spaceDelimited => " ".intercalate items
  | .pipeDelimited => "|".intercalate items
  | .label => "." ++ ".".intercalate items
  | .matrix => ";" ++ name ++ "=" ++ ",".intercalate items

/-- The texts that can be items of a list in a style. -/
structure IsItem (style : Style) (item : String) : Prop where
  nonempty : item ≠ ""
  /-- It does not begin with a blank. -/
  first : item.toList.head?.any Text.isBlank = false
  /-- It does not end with a blank. -/
  last : item.toList.getLast?.any Text.isBlank = false
  free : style.delimiter ∉ item.toList

theorem listBody_listText (style : Style) {name : String}
    (named : style = .matrix → '=' ∉ name.toList) (items : List String) :
    style.listBody (style.listText name items).toList =
      [style.delimiter].intercalate (items.map String.toList) := by
  cases style with
  | form | simple | deepObject | spaceDelimited | pipeDelimited => exact String.toList_intercalate
  | label =>
      rw [listText, String.toList_append, String.toList_intercalate]
      rfl
  | matrix =>
      have written : (listText name items .matrix).toList =
          ';' :: (name.toList ++ '=' :: [','].intercalate (items.map String.toList)) := by
        simp [listText]
      have cut := Text.cutAt?_append_cons (Text.whole_of_not_mem (named rfl))
        (decide_eq_true (rfl : '=' = '=')) ([','].intercalate (items.map String.toList))
      rw [written, listBody, cut]
      rfl

/-- An item is neither trimmed nor dropped. -/
theorem IsItem.kept {style : Style} {item : String} (fit : style.IsItem item) :
    Text.trim item.toList = item.toList ∧ item.toList.isEmpty = false := by
  refine ⟨Text.SolidEnds.trimBy_eq ⟨fit.first, fit.last⟩, ?_⟩
  rw [List.isEmpty_eq_false_iff, Ne, String.toList_eq_nil_iff]
  exact fit.nonempty

end Style

theorem splitItems_listText (style : Style) {name : String}
    (named : style = .matrix → '=' ∉ name.toList) {items : List String}
    (fit : ∀ item ∈ items, style.IsItem item) :
    splitItems style (style.listText name items) = items := by
  rw [splitItems, style.listBody_listText named]
  cases items with
  | nil => rfl
  | cons first rest =>
      have free : ∀ piece ∈ (first :: rest).map String.toList, style.delimiter ∉ piece := by
        intro piece mem
        obtain ⟨item, listed, rfl⟩ := List.mem_map.1 mem
        exact (fit item listed).free
      have trimmed : ((first :: rest).map String.toList).map Text.trim =
          (first :: rest).map String.toList := by
        rw [List.map_map]
        exact List.map_congr_left fun item listed => (fit item listed).kept.1
      have counted : ∀ piece ∈ (first :: rest).map String.toList, (!piece.isEmpty) = true := by
        intro piece mem
        obtain ⟨item, listed, rfl⟩ := List.mem_map.1 mem
        rw [(fit item listed).kept.2]
        rfl
      rw [Text.splitBy_intercalate (by simp) free]
      simp only [trimmed]
      rw [List.filter_eq_self.2 counted, List.map_map]
      exact (List.map_congr_left fun item _ => String.ofList_toList).trans (List.map_id _)

/-- The candidate of a list type is the list that was written. -/
theorem candidate_listText {ty element : Descriptor} (list : ty.collectionElement? = some element)
    (style : Style) {name : String} (named : style = .matrix → '=' ∉ name.toList)
    {items : List String} (fit : ∀ item ∈ items, style.IsItem item) :
    candidate (.single (style.listText name items)) ty style = textList items := by
  rw [candidate.eq_def, list]
  exact congrArg textList (splitItems_listText style named fit)

/-! ### Items that look like what stands in front -/

/-- Two items with what matrices and labels put in front. -/
def lookalikes : List String := [";at=1", ".2=é"]

theorem isItem_of_mem_lookalikes : ∀ item ∈ lookalikes, Style.matrix.IsItem item := by
  have first : Style.matrix.IsItem ";at=1" := ⟨by decide, by decide, by decide, by decide⟩
  have second : Style.matrix.IsItem ".2=é" := ⟨by decide, by decide, by decide, by decide⟩
  intro item mem
  rcases List.mem_cons.1 mem with rfl | mem
  · exact first
  · rw [List.mem_singleton.1 mem]
    exact second

theorem candidate_lookalikes :
    (Descriptor.optional (.array (.leaf .string))).collectionElement? = some (.leaf .string) ∧
    '=' ∉ "at".toList ∧ (∀ item ∈ lookalikes, Style.matrix.IsItem item) ∧
    candidate (.single ";at=;at=1,.2=é") (.optional (.array (.leaf .string))) .matrix =
      textList [";at=1", ".2=é"] := by
  have written : Style.matrix.listText "at" lookalikes = ";at=;at=1,.2=é" := by
    simp [Style.listText, lookalikes]
  refine ⟨rfl, by decide, isItem_of_mem_lookalikes, ?_⟩
  rw [← written]
  exact candidate_listText rfl .matrix (fun _ => by decide) isItem_of_mem_lookalikes

end ApiContract
