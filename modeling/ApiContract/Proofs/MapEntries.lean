import ApiContract.Proofs.Coercion
import Mathlib.Data.List.Dedup
import Mathlib.Data.List.Forall2

/-! # The entries of a map

A map reads the key and the value of each member and puts the value under the text of the key.  Keys
that differ may be read as one key: an integer with zeros in front, a truth value by another word, an
identifier in upper case.  Then one entry is left, which has the value of the last of these members.

What a map keeps is told in terms of its members (`Descriptor.map_keeps_entries_iff`): each member finds
its value under its text exactly if members with one text have one value, and there are as many entries
as members exactly if no two members have one text.  Keys that are read as they stand never meet
(`Descriptor.keysApart_of_verbatim`), but two ways to write an integer do
(`Descriptor.stock_loses_entry`). -/

namespace ApiContract

theorem exists_split_of_forall₂ {α β : Type} {R : α → β → Prop} {as : List α} {before after : List β}
    {b : β} (h : List.Forall₂ R as (before ++ b :: after)) :
    ∃ first a rest, as = first ++ a :: rest ∧ R a b ∧ List.Forall₂ R rest after := by
  have tail := List.forall₂_drop_append _ _ _ h
  obtain ⟨a, rest, own, related, split⟩ := List.forall₂_cons_right_iff.1 tail
  refine ⟨as.take before.length, a, rest, ?_, own, related⟩
  rw [← split, List.take_append_drop]

/-! ### The last pair with a key -/

namespace Entries
variable {α : Type}

theorem lookup_ofList_eq_some_iff {k : String} {v : α} {pairs : List (String × α)} :
    (ofList pairs).lookup k = some v ↔
      ∃ before after, pairs = before ++ (k, v) :: after ∧ ∀ e ∈ after, e.1 ≠ k := by
  have differs (e : String × α) : (k != e.1) = true ↔ e.1 ≠ k := by rw [bne_iff_ne, ne_comm]
  rw [lookup_ofList, List.lookup_eq_some_iff]
  constructor
  · rintro ⟨after, before, split, other⟩
    refine ⟨before.reverse, after.reverse, ?_, ?_⟩
    · rw [← List.reverse_reverse pairs, split]
      simp
    · exact fun e he => (differs e).1 (other e (List.mem_reverse.1 he))
  · rintro ⟨before, after, rfl, other⟩
    refine ⟨after.reverse, before.reverse, by simp, fun e he => ?_⟩
    exact (differs e).2 (other e (List.mem_reverse.1 he))

theorem mem_keys_ofList_iff {k : String} {pairs : List (String × α)} :
    k ∈ (ofList pairs).map Prod.fst ↔ k ∈ pairs.map Prod.fst := by
  constructor
  · intro h
    obtain ⟨e, he, rfl⟩ := List.mem_map.1 h
    exact List.mem_map_of_mem (mem_of_mem_ofList he)
  · intro h
    obtain ⟨⟨k, value⟩, he, rfl⟩ := List.mem_map.1 h
    exact (Dict.mem_keys_iff (d := Dict.ofList pairs)).2 (lookup_ofList_isSome_of_mem he)

theorem length_ofList (pairs : List (String × α)) :
    (ofList pairs).length = (pairs.map Prod.fst).dedup.length := by
  have unique : ((ofList pairs).map Prod.fst).Nodup := (Dict.ofList pairs).nodup_keys
  have same : ((ofList pairs).map Prod.fst).Perm (pairs.map Prod.fst).dedup := by
    refine (List.perm_ext_iff_of_nodup unique (List.nodup_dedup _)).2 fun k => ?_
    rw [List.mem_dedup, mem_keys_ofList_iff]
  rw [← same.length_eq, List.length_map]

theorem length_ofList_eq_iff {pairs : List (String × α)} :
    (ofList pairs).length = pairs.length ↔ (pairs.map Prod.fst).Nodup := by
  have size : pairs.length = (pairs.map Prod.fst).length := (List.length_map _).symm
  rw [length_ofList, ← List.dedup_eq_self, size]
  constructor
  · exact (List.dedup_sublist _).eq_of_length
  · exact congrArg List.length

end Entries

namespace Descriptor

/-! ### Members and entries -/

section entries
variable {c : Catalog} {key value : Descriptor} {members : List (String × Json)} {out : Json}

/-- A member of an object is read as an entry: the text of the key that its key is read as, and the
value that its value is read as. -/
def ReadsEntry (c : Catalog) (key value : Descriptor) (m e : String × Json) : Prop :=
  ∃ k, coerce c key (.str m.1) = .ok k ∧ keyText k = e.1 ∧ coerce c value m.2 = .ok e.2

/-- The keys of two members are not read as one. -/
def KeysApart (c : Catalog) (key value : Descriptor) (m n : String × Json) : Prop :=
  ∀ d e, ReadsEntry c key value m d → ReadsEntry c key value n e → d.1 ≠ e.1

theorem readsEntry_iff {m e : String × Json} : ReadsEntry c key value m e ↔
    entryResult m.1 (coerce c key (.str m.1)) (coerce c value m.2) = .ok e := by
  rw [entryResult_eq_ok_iff]
  constructor
  · rintro ⟨k, readKey, text, readValue⟩
    exact ⟨k, e.2, readKey, readValue, by rw [text]⟩
  · rintro ⟨k, v, readKey, readValue, rfl⟩
    exact ⟨k, readKey, rfl, readValue⟩

theorem ReadsEntry.unique {m d e : String × Json} (first : ReadsEntry c key value m d)
    (second : ReadsEntry c key value m e) : d = e :=
  Except.ok.inj ((readsEntry_iff.1 first).symm.trans (readsEntry_iff.1 second))

/-- A map that is read has the entries that its members are read as, in their order; of those with one
text the last counts. -/
theorem entries_of_coerce_map (h : coerce c (.map key value) (.obj members) = .ok out) :
    ∃ entries, List.Forall₂ (ReadsEntry c key value) members entries ∧ out = .object entries := by
  obtain ⟨_, entries, e, rfl, read⟩ := coerce_map_eq_ok_iff.1 h
  cases e
  refine ⟨entries, ?_, rfl⟩
  rw [← List.forall₂_eq_eq_eq, List.forall₂_map_left_iff, List.forall₂_map_right_iff] at read
  exact read.imp fun m e same => readsEntry_iff.2 same

section read
variable {entries : List (String × Json)} (read : List.Forall₂ (ReadsEntry c key value) members entries)
include read

theorem exists_entry {m : String × Json} (hm : m ∈ members) :
    ∃ e ∈ entries, ReadsEntry c key value m e := by
  obtain ⟨i, hi, rfl⟩ := List.mem_iff_getElem.1 hm
  have bound : i < entries.length := read.length_eq ▸ hi
  exact ⟨entries[i], List.getElem_mem bound, read.get hi bound⟩

theorem exists_member {e : String × Json} (he : e ∈ entries) :
    ∃ m ∈ members, ReadsEntry c key value m e := by
  obtain ⟨i, hi, rfl⟩ := List.mem_iff_getElem.1 he
  have bound : i < members.length := read.length_eq ▸ hi
  exact ⟨members[i], List.getElem_mem bound, read.get bound hi⟩

theorem pairwise_keysApart_iff :
    members.Pairwise (KeysApart c key value) ↔ (entries.map Prod.fst).Nodup := by
  induction read with
  | nil => simp
  | @cons m e members entries own read ih =>
      rw [List.pairwise_cons, List.map_cons, List.nodup_cons, ih]
      refine and_congr_left fun _ => ?_
      constructor
      · intro apart listed
        obtain ⟨other, mem, same⟩ := List.mem_map.1 listed
        obtain ⟨n, hn, readOther⟩ := exists_member read mem
        exact apart n hn e other own readOther same.symm
      · intro fresh n hn d other readOwn readOther same
        obtain rfl := own.unique readOwn
        obtain ⟨listed, mem, readListed⟩ := exists_entry read hn
        obtain rfl := readListed.unique readOther
        exact fresh (List.mem_map.2 ⟨_, mem, same.symm⟩)

end read

theorem lookup_entries_iff {entries : List (String × Json)}
    (read : List.Forall₂ (ReadsEntry c key value) members entries) {text : String} {w : Json} :
    (Entries.ofList entries).lookup text = some w ↔
      ∃ first m rest, members = first ++ m :: rest ∧ ReadsEntry c key value m (text, w) ∧
        ∀ n ∈ rest, ∀ e, ReadsEntry c key value n e → e.1 ≠ text := by
  rw [Entries.lookup_ofList_eq_some_iff]
  constructor
  · rintro ⟨before, after, rfl, other⟩
    obtain ⟨first, m, rest, rfl, own, readRest⟩ := exists_split_of_forall₂ read
    refine ⟨first, m, rest, rfl, own, fun n hn e readOther => ?_⟩
    obtain ⟨listed, mem, readListed⟩ := exists_entry readRest hn
    obtain rfl := readListed.unique readOther
    exact other _ mem
  · rintro ⟨first, m, rest, rfl, own, other⟩
    obtain ⟨before, e, after, rfl, readOwn, readRest⟩ :=
      exists_split_of_forall₂ (R := fun e m => ReadsEntry c key value m e) read.flip
    obtain rfl := readOwn.unique own
    refine ⟨before, after, rfl, fun e mem => ?_⟩
    obtain ⟨n, hn, readOther⟩ := exists_member readRest.flip mem
    exact other n hn e readOther

/-! ### What a map keeps -/

/-- A map has under each text the value of the last member whose key is read as this text.  Each member
finds its value under its text exactly if members with one text have one value.  There are as many
entries as members exactly if no two members have one text. -/
theorem map_keeps_entries_iff (h : coerce c (.map key value) (.obj members) = .ok out) :
    ∃ kept, out = .obj kept ∧
      (∀ text w, kept.lookup text = some w ↔
        ∃ first m rest, members = first ++ m :: rest ∧ ReadsEntry c key value m (text, w) ∧
          ∀ n ∈ rest, ∀ e, ReadsEntry c key value n e → e.1 ≠ text) ∧
      ((∀ m ∈ members, ∃ e, ReadsEntry c key value m e ∧ kept.lookup e.1 = some e.2) ↔
        ∀ m ∈ members, ∀ n ∈ members, ∀ d e, ReadsEntry c key value m d →
          ReadsEntry c key value n e → d.1 = e.1 → d.2 = e.2) ∧
      (kept.length = members.length ↔ members.Pairwise (KeysApart c key value)) := by
  obtain ⟨entries, read, rfl⟩ := entries_of_coerce_map h
  refine ⟨_, rfl, fun text w => lookup_entries_iff read, ⟨?_, ?_⟩, ?_⟩
  · intro found m hm n hn d e readFirst readSecond same
    obtain ⟨d', readFirst', foundFirst⟩ := found m hm
    obtain ⟨e', readSecond', foundSecond⟩ := found n hn
    obtain rfl := readFirst'.unique readFirst
    obtain rfl := readSecond'.unique readSecond
    rw [same, foundSecond] at foundFirst
    exact (Option.some.inj foundFirst).symm
  · intro agree m hm
    obtain ⟨e, mem, own⟩ := exists_entry read hm
    refine ⟨e, own, Entries.lookup_ofList_of_unique mem fun other memOther => ?_⟩
    obtain ⟨n, hn, readOther⟩ := exists_member read memOther
    exact agree n hn m hm _ _ readOther own rfl
  · rw [read.length_eq, Entries.length_ofList_eq_iff, pairwise_keysApart_iff read]

theorem keysApart_of_verbatim (verbatim : ∀ text k, coerce c key (.str text) = .ok k → keyText k = text)
    (sorted : Entries.Sorted members) : members.Pairwise (KeysApart c key value) := by
  refine sorted.imp fun {m n} lt d e => ?_
  rintro ⟨j, readFirst, first, -⟩ ⟨k, readSecond, second, -⟩ same
  rw [← first, ← second, verbatim _ _ readFirst, verbatim _ _ readSecond] at same
  rw [same] at lt
  exact String.lt_irrefl _ lt

end entries

/-! ### Stock by number -/

/-- How many there are of two articles, whose numbers are written in different ways. -/
def stock : List (String × Json) := [("07", .ofInt 3), ("7", .ofInt 5)]

theorem coerce_stock_by_text :
    coerce ⟨[]⟩ (.map (.leaf .string) (.leaf .integer)) (.obj stock) = .ok (.obj stock) := by
  simp only [stock, coerce_map, coerce_leaf, List.map_cons, List.map_nil]
  rfl

theorem stock_keeps_entries : ∃ kept,
    coerce ⟨[]⟩ (.map (.leaf .string) (.leaf .integer)) (.obj stock) = .ok (.obj kept) ∧
      kept.length = stock.length := by
  have sorted : Entries.Sorted stock := List.pairwise_pair.2 (by decide)
  obtain ⟨kept, same, -, -, size⟩ := map_keeps_entries_iff coerce_stock_by_text
  refine ⟨kept, same ▸ coerce_stock_by_text, size.2 (keysApart_of_verbatim ?_ sorted)⟩
  intro text k read
  cases coerce_leaf_eq_ok_iff.1 read
  rfl

/-- As integers the two numbers are one.  Both members are read, and the first is in the result neither
with its value nor as an entry of its own. -/
theorem stock_loses_entry :
    coerce ⟨[]⟩ (.map (.leaf .integer) (.leaf .integer)) (.obj stock) =
      .ok (.obj [("7", .ofInt 5)]) ∧
    ("07", .ofInt 3) ∈ stock ∧
    ReadsEntry ⟨[]⟩ (.leaf .integer) (.leaf .integer) ("07", .ofInt 3) ("7", .ofInt 3) ∧
    [("7", Json.ofInt 5)].lookup "7" ≠ some (.ofInt 3) ∧
    [("7", Json.ofInt 5)].length ≠ stock.length := by
  refine ⟨?_, List.mem_cons_self, ⟨.ofInt 7, ?_, rfl, ?_⟩, ?_, by decide⟩
  · simp only [stock, coerce_map, coerce_leaf, List.map_cons, List.map_nil]
    rfl
  · exact coerce_leaf_eq_ok_iff.2 rfl
  · exact coerce_leaf_eq_ok_iff.2 rfl
  · simp [Json.ofInt, Number.ofInt?]

end Descriptor
end ApiContract
