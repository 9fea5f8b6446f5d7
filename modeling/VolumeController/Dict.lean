/-!
Finite maps from text to values, kept in key order. The order is a field of the type, so two maps with
the same bindings are equal, and a listing of one never depends on how it was built.
-/

namespace VolumeController

universe u v

/-- A finite map from text, its bindings in strictly rising key order. -/
structure Dict (β : Type u) where
  entries : List (String × β)
  sorted : entries.Pairwise (fun a b => a.1 < b.1)

namespace Dict

variable {β : Type u} {γ : Type v}

/-- The map without bindings. -/
def empty : Dict β := ⟨[], .nil⟩

instance : Inhabited (Dict β) := ⟨empty⟩

instance : EmptyCollection (Dict β) := ⟨empty⟩

@[ext] theorem ext {m n : Dict β} (h : m.entries = n.entries) : m = n := by
  cases m; cases n; simp_all

instance [DecidableEq β] : DecidableEq (Dict β) := fun m n =>
  decidable_of_iff (m.entries = n.entries) ⟨ext, fun h => h ▸ rfl⟩

instance [Repr β] : Repr (Dict β) := ⟨fun m p => reprPrec m.entries p⟩

/-- The bindings in key order. -/
def toList (m : Dict β) : List (String × β) := m.entries

/-- Whether the map has no bindings. -/
def isEmpty (m : Dict β) : Bool := m.entries.isEmpty

/-- The value bound to a key. -/
def get? (m : Dict β) (key : String) : Option β := m.entries.lookup key

/-- Puts a binding into an ordered list, in place of an older one of the same key. -/
def insertEntry (key : String) (value : β) : List (String × β) → List (String × β)
  | [] => [(key, value)]
  | (k, v) :: rest =>
    if key < k then (key, value) :: (k, v) :: rest
    else if key = k then (key, value) :: rest
    else (k, v) :: insertEntry key value rest

theorem mem_insertEntry {key : String} {value : β} {entries : List (String × β)}
    {e : String × β} (h : e ∈ insertEntry key value entries) : e = (key, value) ∨ e ∈ entries := by
  induction entries with
  | nil => simpa [insertEntry] using h
  | cons x rest ih =>
    obtain ⟨k, v⟩ := x
    simp only [insertEntry] at h
    split at h
    · simpa using h
    · split at h
      · simp only [List.mem_cons] at h ⊢
        rcases h with h | h <;> simp [h]
      · simp only [List.mem_cons] at h ⊢
        rcases h with h | h
        · simp [h]
        · rcases ih h with h | h <;> simp [h]

theorem insertEntry_sorted {key : String} {value : β} {entries : List (String × β)}
    (h : entries.Pairwise (fun a b => a.1 < b.1)) :
    (insertEntry key value entries).Pairwise (fun a b => a.1 < b.1) := by
  induction entries with
  | nil => simp [insertEntry]
  | cons x rest ih =>
    obtain ⟨k, v⟩ := x
    rw [List.pairwise_cons] at h
    obtain ⟨hk, hrest⟩ := h
    simp only [insertEntry]
    split
    · rename_i hlt
      refine List.pairwise_cons.2 ⟨?_, List.pairwise_cons.2 ⟨hk, hrest⟩⟩
      intro e he
      rcases List.mem_cons.1 he with rfl | he
      · exact hlt
      · exact String.lt_trans hlt (hk e he)
    · split
      · rename_i heq
        subst heq
        exact List.pairwise_cons.2 ⟨hk, hrest⟩
      · rename_i hnlt hne
        refine List.pairwise_cons.2 ⟨?_, ih hrest⟩
        intro e he
        rcases mem_insertEntry he with rfl | he
        · exact Decidable.byContradiction fun hn =>
            hne (String.le_antisymm (String.not_lt.1 hn) (String.not_lt.1 hnlt))
        · exact hk e he

/-- Binds a key, in place of an older binding. -/
def insert (m : Dict β) (key : String) (value : β) : Dict β :=
  ⟨insertEntry key value m.entries, insertEntry_sorted m.sorted⟩

/-- The map of a list of bindings, in which the last binding of a key counts. -/
def ofList (bindings : List (String × β)) : Dict β :=
  bindings.foldl (fun m e => m.insert e.1 e.2) empty

/-- The map without the binding of a key. -/
def erase (m : Dict β) (key : String) : Dict β :=
  ⟨m.entries.filter (·.1 != key), m.sorted.filter _⟩

theorem lookup_insertEntry (key k : String) (value : β) (entries : List (String × β)) :
    (insertEntry key value entries).lookup k =
      if k = key then some value else entries.lookup k := by
  induction entries with
  | nil =>
    by_cases hk : k = key
    · simp [insertEntry, hk]
    · have hb : (k == key) = false := by simpa using hk
      simp [insertEntry, List.lookup_cons, hb, hk]
  | cons x rest ih =>
    obtain ⟨k', v⟩ := x
    by_cases hk : k = key
    · subst hk
      simp only [insertEntry]
      split
      · simp
      · split
        · simp
        · rename_i hne
          have hb : (k == k') = false := by simpa using hne
          simp [List.lookup_cons, hb, ih]
    · have hb : (k == key) = false := by simpa using hk
      simp only [insertEntry]
      split
      · simp [List.lookup_cons, hb]
      · split
        · rename_i heq
          subst heq
          simp [List.lookup_cons, hb]
        · simp [List.lookup_cons, hk, ih]

@[simp] theorem get?_empty (key : String) : (empty : Dict β).get? key = none := rfl

@[simp] theorem get?_insert (m : Dict β) (key k : String) (value : β) :
    (m.insert key value).get? k = if k = key then some value else m.get? k :=
  lookup_insertEntry key k value m.entries

@[simp] theorem get?_erase (m : Dict β) (key k : String) :
    (m.erase key).get? k = if k = key then none else m.get? k := by
  simp only [erase, get?]
  induction m.entries with
  | nil => simp
  | cons e rest ih =>
    obtain ⟨k', v⟩ := e
    by_cases hKey : k' = key
    · rw [List.filter_cons_of_neg (by simpa using hKey), ih]
      by_cases hk : k = key
      · simp [hk]
      · have hb : (k == k') = false := by simpa [hKey] using hk
        rw [if_neg hk, if_neg hk, List.lookup_cons, hb]
    · rw [List.filter_cons_of_pos (by simpa using hKey), List.lookup_cons, List.lookup_cons, ih]
      by_cases hk : k = k'
      · simp [hk, hKey]
      · have hb : (k == k') = false := by simpa using hk
        simp [hb]

theorem insertEntry_of_forall_lt {key : String} {value : β} {entries : List (String × β)}
    (h : ∀ e ∈ entries, e.1 < key) : insertEntry key value entries = entries ++ [(key, value)] := by
  induction entries with
  | nil => rfl
  | cons x rest ih =>
    obtain ⟨k, v⟩ := x
    have hk : k < key := h (k, v) (by simp)
    have hn : ¬ key < k := fun hlt => absurd (String.lt_trans hk hlt) (String.lt_irrefl k)
    have hne : key ≠ k := fun he => absurd (he ▸ hk) (String.lt_irrefl _)
    simp [insertEntry, hn, hne, ih fun e he => h e (by simp [he])]

theorem foldl_insert_entries (m : Dict β) (bindings : List (String × β))
    (h : (m.entries ++ bindings).Pairwise (fun a b => a.1 < b.1)) :
    (bindings.foldl (fun m e => m.insert e.1 e.2) m).entries = m.entries ++ bindings := by
  induction bindings generalizing m with
  | nil => simp
  | cons e rest ih =>
    have hlt : ∀ x ∈ m.entries, x.1 < e.1 := by
      intro x hx
      exact (List.pairwise_append.1 h).2.2 x hx e (by simp)
    have hentries : (m.insert e.1 e.2).entries = m.entries ++ [e] :=
      insertEntry_of_forall_lt hlt
    simp only [List.foldl_cons]
    rw [ih _ (by rw [hentries]; simpa using h), hentries]
    simp

theorem mem_of_get?_foldl {m : Dict β} {bindings : List (String × β)} {key : String} {value : β}
    (h : (bindings.foldl (fun m e => m.insert e.1 e.2) m).get? key = some value) :
    (key, value) ∈ bindings ∨ m.get? key = some value := by
  induction bindings generalizing m with
  | nil => exact .inr h
  | cons e rest ih =>
    rcases ih h with hRest | hFirst
    · exact .inl (List.mem_cons_of_mem e hRest)
    · rw [get?_insert] at hFirst
      split at hFirst
      · rename_i hKey
        cases hFirst
        exact .inl (hKey ▸ List.mem_cons_self)
      · exact .inr hFirst

/-- What a map is built from has all its bindings. -/
theorem mem_of_get?_ofList {bindings : List (String × β)} {key : String} {value : β}
    (h : (ofList bindings).get? key = some value) : (key, value) ∈ bindings := by
  rcases mem_of_get?_foldl h with hBinding | hEmpty
  · exact hBinding
  · cases hEmpty

/-- A map is rebuilt from its bindings. -/
@[simp] theorem ofList_toList (m : Dict β) : ofList m.toList = m := by
  apply ext
  simpa [ofList, empty, toList] using foldl_insert_entries empty m.entries (by simpa [empty] using m.sorted)

end Dict

end VolumeController
