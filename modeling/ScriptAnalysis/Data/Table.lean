/-!
# Tables keyed by text

A table is a list of entries in strictly ascending order of their keys, so that two tables with the
same entries are equal however they were filled.

* `find?_insert`, `find?_erase`: what a write does to each key.
* `ext_find?`: a table is determined by what it holds at each key.
* `ofList_entries`: a table is rebuilt from its entries.
-/

namespace ScriptAnalysis.Data

/-- Entries in strictly ascending order of their keys. -/
structure Table (α : Type) where
  entries : List (String × α)
  ascending : entries.Pairwise fun a b => a.1 < b.1

namespace Table

variable {α : Type}

/-! ## Entry lists -/

/-- Put a value at a key of an ascending list, replacing the entry that is there. -/
def insertEntry (key : String) (value : α) : List (String × α) → List (String × α)
  | [] => [(key, value)]
  | (k, v) :: rest =>
    if key < k then (key, value) :: (k, v) :: rest
    else if k < key then (k, v) :: insertEntry key value rest
    else (key, value) :: rest

private theorem eq_of_not_lt {a b : String} (hab : ¬a < b) (hba : ¬b < a) : a = b :=
  String.le_antisymm (String.not_lt.1 hba) (String.not_lt.1 hab)

theorem mem_insertEntry {key : String} {value : α} {entry : String × α}
    {entries : List (String × α)} (h : entry ∈ insertEntry key value entries) :
    entry = (key, value) ∨ entry ∈ entries := by
  induction entries with
  | nil => simpa [insertEntry] using h
  | cons head rest ih =>
    obtain ⟨k, v⟩ := head
    simp only [insertEntry] at h
    split at h
    · simpa using h
    · split at h
      · rcases List.mem_cons.1 h with rfl | hRest
        · simp
        · rcases ih hRest with hNew | hOld
          · exact Or.inl hNew
          · exact Or.inr (List.mem_cons_of_mem _ hOld)
      · rcases List.mem_cons.1 h with rfl | hRest
        · simp
        · exact Or.inr (List.mem_cons_of_mem _ hRest)

theorem insertEntry_ascending (key : String) (value : α) {entries : List (String × α)}
    (h : entries.Pairwise fun a b => a.1 < b.1) :
    (insertEntry key value entries).Pairwise fun a b => a.1 < b.1 := by
  induction entries with
  | nil => simp [insertEntry]
  | cons head rest ih =>
    obtain ⟨k, v⟩ := head
    obtain ⟨hHead, hRest⟩ := List.pairwise_cons.1 h
    simp only [insertEntry]
    split
    · rename_i hLess
      refine List.pairwise_cons.2 ⟨fun entry hMem => ?_, h⟩
      rcases List.mem_cons.1 hMem with rfl | hMem
      · exact hLess
      · exact String.lt_trans hLess (hHead entry hMem)
    · split
      · rename_i hGreater
        refine List.pairwise_cons.2 ⟨fun entry hMem => ?_, ih hRest⟩
        rcases mem_insertEntry hMem with rfl | hMem
        · exact hGreater
        · exact hHead entry hMem
      · rename_i hLess hGreater
        obtain rfl := eq_of_not_lt hLess hGreater
        exact List.pairwise_cons.2 ⟨hHead, hRest⟩

theorem lookup_entry_cons (query key : String) (value : α) (rest : List (String × α)) :
    ((key, value) :: rest).lookup query =
      if query = key then some value else rest.lookup query := by
  rw [List.lookup_cons]
  by_cases h : query = key
  · simp [h]
  · rw [beq_false_of_ne h, if_neg h]

theorem lookup_insertEntry (key query : String) (value : α) (entries : List (String × α)) :
    (insertEntry key value entries).lookup query =
      if query = key then some value else entries.lookup query := by
  induction entries with
  | nil => simp only [insertEntry, lookup_entry_cons]
  | cons head rest ih =>
    obtain ⟨k, v⟩ := head
    simp only [insertEntry]
    split
    · rw [lookup_entry_cons]
    · split
      · rename_i hGreater
        rw [lookup_entry_cons, ih, lookup_entry_cons]
        by_cases hHead : query = k
        · subst hHead
          rw [if_pos rfl, if_pos rfl, if_neg fun h => String.lt_irrefl _ (h ▸ hGreater)]
        · simp only [if_neg hHead]
      · rename_i hLess hGreater
        obtain rfl := eq_of_not_lt hLess hGreater
        simp only [lookup_entry_cons]
        split <;> rfl

private theorem lookup_eq_none_of_lt {query : String} {entries : List (String × α)}
    (h : ∀ entry ∈ entries, query < entry.1) : entries.lookup query = none := by
  induction entries with
  | nil => rfl
  | cons head rest ih =>
    obtain ⟨k, v⟩ := head
    have hLess : query < k := h (k, v) (by simp)
    rw [lookup_entry_cons, if_neg fun e => String.lt_irrefl _ (e ▸ hLess),
      ih fun entry hMem => h entry (by simp [hMem])]

/-! ## Tables -/

def empty : Table α := ⟨[], List.Pairwise.nil⟩

def find? (table : Table α) (key : String) : Option α := table.entries.lookup key

def insert (table : Table α) (key : String) (value : α) : Table α :=
  ⟨insertEntry key value table.entries, insertEntry_ascending key value table.ascending⟩

def erase (table : Table α) (key : String) : Table α :=
  ⟨table.entries.filter fun entry => entry.1 != key, table.ascending.filter _⟩

/-- Put entries in one after the other; of two with the same key the later one stays. -/
def insertAll (table : Table α) (entries : List (String × α)) : Table α :=
  entries.foldl (fun table entry => table.insert entry.1 entry.2) table

/-- The table of some entries; of two with the same key the later one stays. -/
def ofList (entries : List (String × α)) : Table α := empty.insertAll entries

instance [BEq α] : BEq (Table α) := ⟨fun a b => a.entries == b.entries⟩

instance [Repr α] : Repr (Table α) := ⟨fun table n => reprPrec table.entries n⟩

instance : Inhabited (Table α) := ⟨empty⟩

@[simp]
theorem find?_empty (key : String) : (empty : Table α).find? key = none := rfl

theorem find?_insert (table : Table α) (key query : String) (value : α) :
    (table.insert key value).find? query =
      if query = key then some value else table.find? query :=
  lookup_insertEntry key query value table.entries

theorem find?_erase (table : Table α) (key query : String) :
    (table.erase key).find? query = if query = key then none else table.find? query := by
  simp only [find?, erase]
  induction table.entries with
  | nil => simp
  | cons head rest ih =>
    obtain ⟨k, v⟩ := head
    rw [List.filter_cons, lookup_entry_cons]
    by_cases hKey : k = key
    · subst hKey
      simp only [bne_self_eq_false, Bool.false_eq_true, if_false, ih]
      split <;> rfl
    · rw [if_pos (by simpa using hKey), lookup_entry_cons, ih]
      by_cases hQuery : query = k
      · subst hQuery
        simp [hKey]
      · simp only [if_neg hQuery]

private theorem entries_eq_of_lookup {a b : List (String × α)}
    (ha : a.Pairwise fun x y => x.1 < y.1) (hb : b.Pairwise fun x y => x.1 < y.1)
    (h : ∀ key, a.lookup key = b.lookup key) : a = b := by
  induction a generalizing b with
  | nil =>
    cases b with
    | nil => rfl
    | cons head rest =>
      obtain ⟨k, v⟩ := head
      have hAt := h k
      rw [lookup_entry_cons, if_pos rfl] at hAt
      cases hAt
  | cons headA restA ih =>
    obtain ⟨kA, vA⟩ := headA
    cases b with
    | nil =>
      have hAt := h kA
      rw [lookup_entry_cons, if_pos rfl] at hAt
      cases hAt
    | cons headB restB =>
      obtain ⟨kB, vB⟩ := headB
      obtain ⟨hHeadA, hRestA⟩ := List.pairwise_cons.1 ha
      obtain ⟨hHeadB, hRestB⟩ := List.pairwise_cons.1 hb
      have hKeys : kA = kB := by
        refine eq_of_not_lt (fun hLess => ?_) (fun hLess => ?_)
        · have hNone : restB.lookup kA = none :=
            lookup_eq_none_of_lt fun entry hMem => String.lt_trans hLess (hHeadB entry hMem)
          have hAt := h kA
          rw [lookup_entry_cons, if_pos rfl, lookup_entry_cons, hNone,
            if_neg fun e => String.lt_irrefl _ (e ▸ hLess)] at hAt
          cases hAt
        · have hNone : restA.lookup kB = none :=
            lookup_eq_none_of_lt fun entry hMem => String.lt_trans hLess (hHeadA entry hMem)
          have hAt := h kB
          rw [lookup_entry_cons, hNone, if_neg fun e => String.lt_irrefl _ (e ▸ hLess),
            lookup_entry_cons, if_pos rfl] at hAt
          cases hAt
      subst hKeys
      have hValues := h kA
      rw [lookup_entry_cons, if_pos rfl, lookup_entry_cons, if_pos rfl] at hValues
      obtain rfl := Option.some.inj hValues
      rw [ih hRestA hRestB fun key => ?_]
      by_cases hKey : key = kA
      · subst hKey
        rw [lookup_eq_none_of_lt hHeadA, lookup_eq_none_of_lt hHeadB]
      · have hAt := h key
        rwa [lookup_entry_cons, if_neg hKey, lookup_entry_cons, if_neg hKey] at hAt

/-- **A table is what it holds at each key.** -/
theorem ext_find? {a b : Table α} (h : ∀ key, a.find? key = b.find? key) : a = b := by
  obtain ⟨entriesA, hA⟩ := a
  obtain ⟨entriesB, hB⟩ := b
  obtain rfl := entries_eq_of_lookup hA hB h
  rfl

theorem find?_insertAll (table : Table α) (entries : List (String × α)) (key : String) :
    (table.insertAll entries).find? key = (entries.reverse.lookup key).or (table.find? key) := by
  induction entries generalizing table with
  | nil => simp [insertAll]
  | cons head rest ih =>
    obtain ⟨k, v⟩ := head
    have hStep : table.insertAll ((k, v) :: rest) = (table.insert k v).insertAll rest := rfl
    rw [hStep, ih, find?_insert, List.reverse_cons, List.lookup_append, lookup_entry_cons]
    cases rest.reverse.lookup key with
    | some value => rfl
    | none => by_cases hKey : key = k <;> simp [hKey]

private theorem lookup_reverse {entries : List (String × α)}
    (h : entries.Pairwise fun a b => a.1 < b.1) (key : String) :
    entries.reverse.lookup key = entries.lookup key := by
  induction entries with
  | nil => rfl
  | cons head rest ih =>
    obtain ⟨k, v⟩ := head
    obtain ⟨hHead, hRest⟩ := List.pairwise_cons.1 h
    rw [List.reverse_cons, List.lookup_append, ih hRest, lookup_entry_cons, lookup_entry_cons]
    by_cases hKey : key = k
    · subst hKey
      simp [lookup_eq_none_of_lt hHead]
    · cases rest.lookup key <;> simp [hKey]

/-- **A table is rebuilt from its entries.** -/
@[simp]
theorem ofList_entries (table : Table α) : ofList table.entries = table := by
  refine ext_find? fun key => ?_
  rw [ofList, find?_insertAll, lookup_reverse table.ascending, find?_empty, Option.or_none]
  rfl

private theorem mem_iff_lookup {entries : List (String × α)}
    (h : entries.Pairwise fun a b => a.1 < b.1) (key : String) (value : α) :
    (key, value) ∈ entries ↔ entries.lookup key = some value := by
  induction entries with
  | nil => simp
  | cons head rest ih =>
    obtain ⟨k, v⟩ := head
    obtain ⟨hHead, hRest⟩ := List.pairwise_cons.1 h
    rw [List.mem_cons, ih hRest, lookup_entry_cons, Prod.mk.injEq]
    by_cases hKey : key = k
    · subst hKey
      rw [lookup_eq_none_of_lt hHead]
      simp [eq_comm]
    · simp [hKey]

/-- What a table holds at a key is one of its entries. -/
theorem mem_entries_iff {table : Table α} {key : String} {value : α} :
    (key, value) ∈ table.entries ↔ table.find? key = some value :=
  mem_iff_lookup table.ascending key value

/-- A table has one entry just if it holds something at one key. -/
theorem entries_eq_singleton_iff {table : Table α} {key : String} {value : α} :
    table.entries = [(key, value)] ↔
      ∀ query, table.find? query = if query = key then some value else none := by
  constructor
  · intro h query
    rw [find?, h, lookup_entry_cons]
    rfl
  · intro h
    have hTable : table = ⟨[(key, value)], List.pairwise_singleton _ _⟩ :=
      ext_find? fun query => (h query).trans (lookup_entry_cons query key value []).symm
    rw [hTable]

theorem insertAll_append (table : Table α) (first second : List (String × α)) :
    table.insertAll (first ++ second) = (table.insertAll first).insertAll second :=
  List.foldl_append

/-- The entries of another table hide those that were there. -/
theorem find?_insertAll_entries (table other : Table α) (key : String) :
    (table.insertAll other.entries).find? key = (other.find? key).or (table.find? key) := by
  have hOther : (ofList other.entries).find? key = other.find? key := by rw [ofList_entries]
  rw [ofList, find?_insertAll, find?_empty, Option.or_none] at hOther
  rw [find?_insertAll, hOther]

private theorem lookup_eq_none_of_beq [BEq α] {a b : List (String × α)} (h : (a == b) = true)
    {key : String} (hNone : a.lookup key = none) : b.lookup key = none := by
  induction a generalizing b with
  | nil =>
    cases b with
    | nil => rfl
    | cons head rest => cases h
  | cons headA restA ih =>
    obtain ⟨kA, vA⟩ := headA
    cases b with
    | nil => cases h
    | cons headB restB =>
      obtain ⟨kB, vB⟩ := headB
      rw [List.cons_beq_cons, Bool.and_eq_true] at h
      have hKeys : (kA == kB) = true := (Bool.and_eq_true_iff.1 h.1).1
      obtain rfl := eq_of_beq hKeys
      rw [lookup_entry_cons] at hNone ⊢
      by_cases hKey : key = kA
      · rw [if_pos hKey] at hNone
        cases hNone
      · rw [if_neg hKey] at hNone ⊢
        exact ih h.2 hNone

/-- Two tables that are taken for equal hold something under the same keys. -/
theorem find?_eq_none_of_beq [BEq α] {a b : Table α} (h : (a == b) = true) {key : String}
    (hNone : a.find? key = none) : b.find? key = none :=
  lookup_eq_none_of_beq h hNone

end Table

end ScriptAnalysis.Data
