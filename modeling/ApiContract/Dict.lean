/-! # Dictionaries with text keys

A dictionary lists its entries in the order of their keys, each key once, so two dictionaries with
the same entries are equal.  Keys are ordered by code point.  The operations on raw entry lists are
separate, because a JSON object holds such a list. -/

namespace ApiContract

namespace Entries

variable {α : Type}

/-- Puts an entry at its place; an entry with the same key is replaced. -/
def insert (key : String) (value : α) : List (String × α) → List (String × α)
  | [] => [(key, value)]
  | (k, v) :: rest =>
    if key < k then (key, value) :: (k, v) :: rest
    else if key = k then (key, value) :: rest
    else (k, v) :: insert key value rest

/-- Strictly increasing keys. -/
def Sorted (entries : List (String × α)) : Prop := entries.Pairwise fun a b => a.1 < b.1

/-- The entries of a list of pairs, of which the last with a key counts. -/
def ofList (pairs : List (String × α)) : List (String × α) :=
  pairs.foldl (fun entries p => insert p.1 p.2 entries) []

theorem sorted_nil : Sorted ([] : List (String × α)) := List.Pairwise.nil

theorem mem_insert {key : String} {value : α} {entries : List (String × α)} {e : String × α}
    (h : e ∈ insert key value entries) : e = (key, value) ∨ e ∈ entries := by
  induction entries with
  | nil => simpa [insert] using h
  | cons first rest ih =>
    obtain ⟨k, v⟩ := first
    simp only [insert] at h
    split at h
    · simpa using h
    · split at h
      · simp only [List.mem_cons] at h ⊢
        exact h.imp_right .inr
      · simp only [List.mem_cons] at h ⊢
        rcases h with h | h
        · exact .inr (.inl h)
        · exact (ih h).imp_right .inr

theorem sorted_insert {key : String} {value : α} {entries : List (String × α)}
    (h : Sorted entries) :
    Sorted (insert key value entries) := by
  induction entries with
  | nil => simp [insert, Sorted]
  | cons first rest ih =>
    obtain ⟨k, v⟩ := first
    have ⟨hfirst, hrest⟩ := List.pairwise_cons.1 h
    simp only [insert]
    split
    · next hlt =>
      refine List.pairwise_cons.2 ⟨fun e he => ?_, h⟩
      rcases List.mem_cons.1 he with rfl | he
      · exact hlt
      · exact String.lt_trans hlt (hfirst e he)
    · next hlt =>
      split
      · next heq => subst heq; exact List.pairwise_cons.2 ⟨fun e he => hfirst e he, hrest⟩
      · next hne =>
        refine List.pairwise_cons.2 ⟨fun e he => ?_, ih hrest⟩
        rcases mem_insert he with rfl | he
        · exact Std.lt_of_le_of_ne (String.not_lt.1 hlt) fun heq => hne heq.symm
        · exact hfirst e he

theorem sorted_ofList (pairs : List (String × α)) : Sorted (ofList pairs) := by
  suffices ∀ entries : List (String × α), Sorted entries →
      Sorted (pairs.foldl (fun entries p => insert p.1 p.2 entries) entries) from this [] sorted_nil
  induction pairs with
  | nil => exact fun _ h => h
  | cons p rest ih => exact fun _ h => ih _ (sorted_insert h)

@[simp] theorem lookup_cons (key k : String) (value : α) (entries : List (String × α)) :
    ((k, value) :: entries).lookup key = if key = k then some value else entries.lookup key := by
  rw [List.lookup_cons]
  by_cases h : key = k
  · simp [h]
  · simp [h, beq_eq_false_iff_ne.2 h]

theorem lookup_insert (key k : String) (value : α) (entries : List (String × α)) :
    (insert key value entries).lookup k = if k = key then some value else entries.lookup k := by
  induction entries with
  | nil => exact lookup_cons k key value []
  | cons first rest ih =>
    obtain ⟨j, v⟩ := first
    simp only [insert]
    split
    · exact lookup_cons k key value _
    · split
      · next heq => subst heq; simp only [lookup_cons]; split <;> rfl
      · next hne =>
        simp only [lookup_cons, ih]
        by_cases hj : k = j
        · subst hj; simp [Ne.symm hne]
        · simp [hj]

theorem lookup_foldl_insert (k : String) (pairs entries : List (String × α)) :
    (pairs.foldl (fun entries p => insert p.1 p.2 entries) entries).lookup k =
      (pairs.reverse.lookup k).or (entries.lookup k) := by
  induction pairs generalizing entries with
  | nil => rfl
  | cons p rest ih =>
    rw [List.foldl_cons, ih, lookup_insert, List.reverse_cons, List.lookup_append, Option.or_assoc,
      lookup_cons, List.lookup_nil]
    split <;> rfl

/-- Of the pairs with a key the last counts. -/
theorem lookup_ofList (k : String) (pairs : List (String × α)) :
    (ofList pairs).lookup k = pairs.reverse.lookup k := by
  rw [ofList, lookup_foldl_insert, List.lookup_nil, Option.or_none]

theorem mem_of_lookup {k : String} {value : α} {entries : List (String × α)}
    (h : entries.lookup k = some value) : (k, value) ∈ entries := by
  obtain ⟨before, after, rfl, -⟩ := List.lookup_eq_some_iff.1 h
  simp

theorem mem_of_mem_foldl_insert {e : String × α} {pairs entries : List (String × α)}
    (h : e ∈ pairs.foldl (fun entries p => insert p.1 p.2 entries) entries) :
    e ∈ pairs ∨ e ∈ entries := by
  induction pairs generalizing entries with
  | nil => exact .inr h
  | cons p rest ih =>
    rcases ih h with h | h
    · exact .inl (List.mem_cons_of_mem _ h)
    · rcases mem_insert h with rfl | h
      · exact .inl List.mem_cons_self
      · exact .inr h

theorem mem_of_mem_ofList {e : String × α} {pairs : List (String × α)} (h : e ∈ ofList pairs) :
    e ∈ pairs := by
  rcases mem_of_mem_foldl_insert h with h | h
  · exact h
  · cases h

theorem mem_of_lookup_ofList {k : String} {value : α} {pairs : List (String × α)}
    (h : (ofList pairs).lookup k = some value) : (k, value) ∈ pairs :=
  mem_of_mem_ofList (mem_of_lookup h)

/-- A key below all others has no value. -/
theorem lookup_eq_none_of_lt {k : String} {entries : List (String × α)}
    (h : ∀ e ∈ entries, k < e.1) : entries.lookup k = none :=
  Option.eq_none_iff_forall_ne_some.2 fun _ found =>
    absurd (h _ (mem_of_lookup found)) (String.lt_irrefl k)

theorem lookup_filterMap {β : Type} (f : String → α → Option β) (k : String)
    {entries : List (String × α)} (h : Sorted entries) :
    (entries.filterMap fun e => (f e.1 e.2).map fun b => (e.1, b)).lookup k =
      (entries.lookup k).bind (f k) := by
  induction entries with
  | nil => rfl
  | cons first rest ih =>
    obtain ⟨j, v⟩ := first
    have ⟨above, hrest⟩ := List.pairwise_cons.1 h
    rw [List.filterMap_cons, lookup_cons]
    by_cases hk : k = j
    · subst hk
      rw [if_pos rfl, Option.bind_some]
      cases hv : f k v with
      | none =>
        rw [Option.map_none]
        exact (ih hrest).trans (by rw [lookup_eq_none_of_lt above]; rfl)
      | some b => rw [Option.map_some]; exact (lookup_cons k k b _).trans (if_pos rfl)
    · rw [if_neg hk, ← ih hrest]
      cases f j v with
      | none => rfl
      | some b => exact (lookup_cons k j b _).trans (if_neg hk)

theorem lookup_map {β : Type} (f : α → β) (k : String) (entries : List (String × α)) :
    (entries.map fun e => (e.1, f e.2)).lookup k = (entries.lookup k).map f := by
  induction entries with
  | nil => rfl
  | cons first rest ih =>
    rw [List.map_cons, lookup_cons, ih, lookup_cons]
    split <;> rfl

/-- Sorted entries are determined by their values. -/
theorem eq_of_lookup_eq {as bs : List (String × α)} (ha : Sorted as) (hb : Sorted bs)
    (h : ∀ k, as.lookup k = bs.lookup k) : as = bs := by
  induction as generalizing bs with
  | nil =>
    cases bs with
    | nil => rfl
    | cons b _ => have := h b.1; rw [lookup_cons] at this; simp at this
  | cons a as ih =>
    obtain ⟨j, v⟩ := a
    cases bs with
    | nil => have := h j; simp at this
    | cons b bs =>
      obtain ⟨k, w⟩ := b
      have ⟨aboveA, sortedA⟩ := List.pairwise_cons.1 ha
      have ⟨aboveB, sortedB⟩ := List.pairwise_cons.1 hb
      have hj := h j
      have hk := h k
      simp only [lookup_cons, if_true] at hj hk
      have same : j = k := Decidable.byContradiction fun ne => by
        rw [if_neg ne] at hj
        rw [if_neg (Ne.symm ne)] at hk
        exact String.lt_asymm (aboveB _ (mem_of_lookup hj.symm)) (aboveA _ (mem_of_lookup hk))
      subst same
      rw [if_pos rfl] at hj
      obtain rfl := Option.some.inj hj
      rw [ih sortedA sortedB fun i => ?_]
      by_cases hi : i = j
      · subst hi
        rw [lookup_eq_none_of_lt aboveA, lookup_eq_none_of_lt aboveB]
      · have := h i
        rwa [lookup_cons, lookup_cons, if_neg hi, if_neg hi] at this

theorem lookup_ofList_isSome_of_mem {k : String} {value : α} {pairs : List (String × α)}
    (h : (k, value) ∈ pairs) : ((ofList pairs).lookup k).isSome := by
  rw [lookup_ofList, List.lookup_isSome_iff]
  exact ⟨(k, value), List.mem_reverse.2 h, beq_self_eq_true k⟩

theorem mem_ofList_of_lookup {k : String} {value : α} {pairs : List (String × α)}
    (h : pairs.reverse.lookup k = some value) : (k, value) ∈ ofList pairs :=
  mem_of_lookup ((lookup_ofList k pairs).trans h)

/-- A key with one value among the pairs has this value. -/
theorem lookup_ofList_of_unique {k : String} {value : α} {pairs : List (String × α)}
    (h : (k, value) ∈ pairs) (unique : ∀ other, (k, other) ∈ pairs → other = value) :
    (ofList pairs).lookup k = some value := by
  obtain ⟨found, same⟩ := Option.isSome_iff_exists.1 (lookup_ofList_isSome_of_mem h)
  rw [same, unique found (mem_of_lookup_ofList same)]

theorem lookup_ofList_eq_none {k : String} {pairs : List (String × α)}
    (h : ∀ value, (k, value) ∉ pairs) : (ofList pairs).lookup k = none :=
  Option.eq_none_iff_forall_ne_some.2 fun value found => h value (mem_of_lookup_ofList found)

theorem lookup_of_mem {k : String} {value : α} {entries : List (String × α)} (sorted : Sorted entries)
    (h : (k, value) ∈ entries) : entries.lookup k = some value := by
  induction entries with
  | nil => cases h
  | cons first rest ih =>
      obtain ⟨above, sortedRest⟩ := List.pairwise_cons.1 sorted
      obtain ⟨j, v⟩ := first
      rw [lookup_cons]
      rcases List.mem_cons.1 h with same | later
      · cases same
        exact if_pos rfl
      · have other : k ≠ j := by
          rintro rfl
          exact String.lt_irrefl k (above _ later)
        rw [if_neg other]
        exact ih sortedRest later

/-- Sorted entries are the entries that they list. -/
theorem ofList_of_sorted {entries : List (String × α)} (sorted : Sorted entries) :
    ofList entries = entries := by
  refine eq_of_lookup_eq (sorted_ofList entries) sorted fun k => ?_
  cases found : entries.lookup k with
  | some value =>
      refine lookup_ofList_of_unique (mem_of_lookup found) fun other mem => ?_
      have again := lookup_of_mem sorted mem
      rw [found] at again
      exact (Option.some.inj again).symm
  | none =>
      refine lookup_ofList_eq_none fun value mem => ?_
      rw [lookup_of_mem sorted mem] at found
      cases found

end Entries

/-- A finite map from texts, listed in the order of its keys. -/
structure Dict (α : Type) where
  entries : List (String × α)
  sorted : Entries.Sorted entries

namespace Dict

variable {α : Type}

/-- The dictionary with no entry. -/
def empty : Dict α := ⟨[], Entries.sorted_nil⟩

instance : Inhabited (Dict α) := ⟨empty⟩

/-- The value at a key. -/
def get? (d : Dict α) (key : String) : Option α := d.entries.lookup key

/-- Whether a key has a value. -/
def contains (d : Dict α) (key : String) : Bool := (d.get? key).isSome

/-- Sets the value at a key. -/
def insert (d : Dict α) (key : String) (value : α) : Dict α :=
  ⟨Entries.insert key value d.entries, Entries.sorted_insert d.sorted⟩

/-- Sets the values of all pairs, in order. -/
def insertAll (d : Dict α) (pairs : List (String × α)) : Dict α :=
  pairs.foldl (fun d p => d.insert p.1 p.2) d

/-- The dictionary of a list of pairs, of which the last with a key counts. -/
def ofList (pairs : List (String × α)) : Dict α :=
  ⟨Entries.ofList pairs, Entries.sorted_ofList pairs⟩

/-- The entries to which a function gives a value, with this value. -/
def filterMap {β : Type} (d : Dict α) (f : String → α → Option β) : Dict β where
  entries := d.entries.filterMap fun e => (f e.1 e.2).map fun b => (e.1, b)
  sorted := by
    refine List.pairwise_filterMap.2 (d.sorted.imp fun {a b} lt x hx y hy => ?_)
    obtain ⟨-, -, rfl⟩ := Option.map_eq_some_iff.1 hx
    obtain ⟨-, -, rfl⟩ := Option.map_eq_some_iff.1 hy
    exact lt

/-- The keys, in order. -/
def keys (d : Dict α) : List String := d.entries.map Prod.fst

theorem get?_insert (d : Dict α) (key k : String) (value : α) :
    (d.insert key value).get? k = if k = key then some value else d.get? k :=
  Entries.lookup_insert key k value d.entries

theorem get?_ofList (pairs : List (String × α)) (k : String) :
    (ofList pairs).get? k = pairs.reverse.lookup k :=
  Entries.lookup_ofList k pairs

/-- Of the pairs with a key the last counts, and before them what was there. -/
theorem get?_insertAll (d : Dict α) (pairs : List (String × α)) (k : String) :
    (d.insertAll pairs).get? k = (pairs.reverse.lookup k).or (d.get? k) := by
  induction pairs generalizing d with
  | nil => rfl
  | cons p rest ih =>
    rw [insertAll, List.foldl_cons, ← insertAll, ih, get?_insert, List.reverse_cons,
      List.lookup_append, Option.or_assoc, Entries.lookup_cons, List.lookup_nil]
    split <;> rfl

theorem get?_filterMap {β : Type} (d : Dict α) (f : String → α → Option β) (k : String) :
    (d.filterMap f).get? k = (d.get? k).bind (f k) :=
  Entries.lookup_filterMap f k d.sorted

/-- Dictionaries with the same values are equal. -/
theorem ext_get? {d e : Dict α} (h : ∀ k, d.get? k = e.get? k) : d = e := by
  cases d; cases e
  congr
  exact Entries.eq_of_lookup_eq ‹_› ‹_› h

theorem mem_keys_iff {d : Dict α} {key : String} : key ∈ d.keys ↔ (d.get? key).isSome := by
  rw [keys, get?, List.lookup_isSome_iff]
  constructor
  · intro h
    obtain ⟨e, he, rfl⟩ := List.mem_map.1 h
    exact ⟨e, he, beq_self_eq_true _⟩
  · rintro ⟨e, he, same⟩
    exact List.mem_map.2 ⟨e, he, (eq_of_beq same).symm⟩

theorem nodup_keys (d : Dict α) : d.keys.Nodup := by
  refine List.pairwise_map.2 (List.Pairwise.imp ?_ d.sorted)
  intro a b lt same
  rw [same] at lt
  exact String.lt_irrefl b.1 lt

/-- The keys of a dictionary are listed in one order only. -/
theorem keys_eq_of_isSome_eq {β : Type} {d : Dict α} {e : Dict β}
    (h : ∀ k, (d.get? k).isSome = (e.get? k).isSome) : d.keys = e.keys := by
  have marks {γ : Type} (f : Dict γ) : (f.filterMap fun _ _ => some ()).keys = f.keys := by
    simp [keys, filterMap]
  rw [← marks d, ← marks e]
  refine congrArg keys (ext_get? fun k => ?_)
  have known := h k
  rw [get?_filterMap, get?_filterMap]
  revert known
  cases d.get? k <;> cases e.get? k <;> simp

theorem insert_comm (d : Dict α) {j k : String} (ne : j ≠ k) (v w : α) :
    (d.insert j v).insert k w = (d.insert k w).insert j v := by
  refine ext_get? fun i => ?_
  simp only [get?_insert]
  by_cases hj : i = j
  · have other : i ≠ k := hj ▸ ne
    simp only [if_pos hj, if_neg other]
  · simp only [if_neg hj]

theorem insert_insert (d : Dict α) (k : String) (v w : α) :
    (d.insert k v).insert k w = d.insert k w := by
  refine ext_get? fun i => ?_
  simp only [get?_insert]
  split <;> rfl

/-- Pairs that agree on the keys they share can be set in either order. -/
theorem insertAll_comm (d : Dict α) {ps qs : List (String × α)}
    (agree : ∀ k v w, (k, v) ∈ ps → (k, w) ∈ qs → v = w) :
    (d.insertAll ps).insertAll qs = (d.insertAll qs).insertAll ps := by
  refine ext_get? fun k => ?_
  simp only [get?_insertAll]
  cases hp : ps.reverse.lookup k with
  | none => rfl
  | some v =>
    cases hq : qs.reverse.lookup k with
    | none => rfl
    | some w =>
      have mp := List.mem_reverse.1 (Entries.mem_of_lookup hp)
      have mq := List.mem_reverse.1 (Entries.mem_of_lookup hq)
      rw [agree k v w mp mq]

/-- The number of entries. -/
def size (d : Dict α) : Nat := d.entries.length

/-- Whether there is no entry. -/
def isEmpty (d : Dict α) : Bool := d.entries.isEmpty

end Dict
end ApiContract
