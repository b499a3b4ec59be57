/-
# RemoteUi.Table — finite maps from texts, in key order.

A `Table` holds at most one value per key and lists its entries by ascending key.  The order is
part of the type, so two tables with the same entries are equal and a listing never depends on
the history of insertions.  `get?` is the view: the lemmas say what each operation does to it.
-/

namespace RemoteUi

/-- A finite map from texts, its entries in ascending order of key. -/
structure Table (α : Type) where
  entries : List (String × α)
  sorted : entries.Pairwise fun a b => a.1 < b.1

namespace Table

variable {α β : Type}

/-! ## Operations on entry lists -/

/-- The value of the first entry with the key. -/
def lookup (k : String) : List (String × α) → Option α
  | [] => none
  | (k', v) :: rest => if k = k' then some v else lookup k rest

/-- Puts an entry at its place in an ordered list, over an entry with the same key. -/
def place (k : String) (v : α) : List (String × α) → List (String × α)
  | [] => [(k, v)]
  | (k', v') :: rest =>
    if k = k' then (k, v) :: rest
    else if k < k' then (k, v) :: (k', v') :: rest
    else (k', v') :: place k v rest

theorem mem_place {k : String} {v : α} {e : String × α} {l : List (String × α)}
    (h : e ∈ place k v l) : e = (k, v) ∨ e ∈ l := by
  induction l with
  | nil => simpa [place] using h
  | cons a rest ih =>
    simp only [place] at h
    split at h
    · rcases List.mem_cons.mp h with h | h
      · exact Or.inl h
      · exact Or.inr (List.mem_cons_of_mem _ h)
    · split at h
      · rcases List.mem_cons.mp h with h | h
        · exact Or.inl h
        · exact Or.inr h
      · rcases List.mem_cons.mp h with h | h
        · exact Or.inr (h ▸ List.mem_cons_self)
        · rcases ih h with h | h
          · exact Or.inl h
          · exact Or.inr (List.mem_cons_of_mem _ h)

theorem lt_of_ne_of_not_lt {a b : String} (hne : a ≠ b) (h : ¬ a < b) : b < a := by
  rcases String.le_total b a with hle | hle
  · by_cases hlt : b < a
    · exact hlt
    · exact absurd (String.le_antisymm (String.not_lt.mp hlt) (String.not_lt.mp h)) hne
  · by_cases hlt : b < a
    · exact hlt
    · exact absurd (String.le_antisymm (String.not_lt.mp hlt) (String.not_lt.mp h)) hne

theorem place_sorted {k : String} {v : α} {l : List (String × α)}
    (h : l.Pairwise fun a b => a.1 < b.1) : (place k v l).Pairwise fun a b => a.1 < b.1 := by
  induction l with
  | nil => simp [place]
  | cons a rest ih =>
    obtain ⟨hhead, htail⟩ := List.pairwise_cons.mp h
    simp only [place]
    split
    · rename_i heq
      exact List.pairwise_cons.mpr ⟨fun b hb => heq ▸ hhead b hb, htail⟩
    · rename_i hne
      split
      · rename_i hlt
        refine List.pairwise_cons.mpr ⟨fun b hb => ?_, h⟩
        rcases List.mem_cons.mp hb with hb | hb
        · exact hb ▸ hlt
        · exact String.lt_trans hlt (hhead b hb)
      · rename_i hnlt
        refine List.pairwise_cons.mpr ⟨fun b hb => ?_, ih htail⟩
        rcases mem_place hb with hb | hb
        · exact hb ▸ lt_of_ne_of_not_lt hne hnlt
        · exact hhead b hb

/-! ## Tables -/

/-- The table without entries. -/
def empty : Table α := ⟨[], List.Pairwise.nil⟩

instance : Inhabited (Table α) := ⟨empty⟩

/-- The value of a key. -/
def get? (t : Table α) (k : String) : Option α :=
  lookup k t.entries

/-- The key has a value. -/
def contains (t : Table α) (k : String) : Bool :=
  (t.get? k).isSome

/-- Gives a key a value, over an earlier one. -/
def insert (t : Table α) (k : String) (v : α) : Table α :=
  ⟨place k v t.entries, place_sorted t.sorted⟩

/-- Keeps the entries that satisfy `p`. -/
def filter (t : Table α) (p : String → α → Bool) : Table α :=
  ⟨t.entries.filter fun e => p e.1 e.2, t.sorted.filter _⟩

/-- Forgets a key. -/
def erase (t : Table α) (k : String) : Table α :=
  t.filter fun k' _ => !decide (k' = k)

/-- Changes every value, with its key at hand. -/
def mapVal (t : Table α) (f : String → α → β) : Table β :=
  ⟨t.entries.map fun e => (e.1, f e.1 e.2), List.pairwise_map.mpr t.sorted⟩

/-- Changes the value of one key, if it has one. -/
def modify (t : Table α) (k : String) (f : α → α) : Table α :=
  t.mapVal fun k' v => if k' = k then f v else v

/-- The keys in ascending order. -/
def keys (t : Table α) : List String :=
  t.entries.map Prod.fst

/-- The number of keys. -/
def size (t : Table α) : Nat :=
  t.entries.length

/-! ## What each operation does to the view -/

@[ext]
theorem ext_entries {t u : Table α} (h : t.entries = u.entries) : t = u := by
  cases t
  cases u
  cases h
  rfl

@[simp]
theorem get?_empty (k : String) : (empty : Table α).get? k = none := rfl

theorem lookup_place (k k' : String) (v : α) (l : List (String × α)) :
    lookup k' (place k v l) = if k' = k then some v else lookup k' l := by
  induction l with
  | nil => simp [place, lookup]
  | cons a rest ih =>
    simp only [place]
    split
    · rename_i heq
      by_cases hk : k' = k
      · simp [lookup, hk]
      · simp [lookup, hk, ← heq]
    · rename_i hne
      split
      · rfl
      · by_cases hk : k' = a.1
        · simp [lookup, hk, Ne.symm hne]
        · simp [lookup, hk, ih]

@[simp]
theorem get?_insert (t : Table α) (k k' : String) (v : α) :
    (t.insert k v).get? k' = if k' = k then some v else t.get? k' :=
  lookup_place k k' v t.entries

theorem lookup_mapVal (k : String) (f : String → α → β) (l : List (String × α)) :
    lookup k (l.map fun e => (e.1, f e.1 e.2)) = (lookup k l).map (f k) := by
  induction l with
  | nil => rfl
  | cons a rest ih =>
    by_cases hk : k = a.1
    · simp [lookup, hk]
    · simp [lookup, hk, ih]

@[simp]
theorem get?_mapVal (t : Table α) (f : String → α → β) (k : String) :
    (t.mapVal f).get? k = (t.get? k).map (f k) :=
  lookup_mapVal k f t.entries

@[simp]
theorem get?_modify (t : Table α) (k k' : String) (f : α → α) :
    (t.modify k f).get? k' = if k' = k then (t.get? k').map f else t.get? k' := by
  by_cases hk : k' = k <;> simp [modify, hk]

theorem lookup_erase (k k' : String) (l : List (String × α)) :
    lookup k' (l.filter fun e => !decide (e.1 = k)) = if k' = k then none else lookup k' l := by
  induction l with
  | nil => simp [lookup]
  | cons a rest ih =>
    by_cases ha : a.1 = k
    · by_cases hk : k' = k
      · subst hk
        simpa [List.filter, ha] using ih
      · simp [List.filter, ha, ih, hk, lookup]
    · by_cases hk : k' = k
      · subst hk
        simp [List.filter, ha, ih, lookup, Ne.symm ha]
      · simp [List.filter, ha, ih, hk, lookup]

@[simp]
theorem get?_erase (t : Table α) (k k' : String) :
    (t.erase k).get? k' = if k' = k then none else t.get? k' :=
  lookup_erase k k' t.entries

theorem lookup_eq_some_iff {k : String} {v : α} {l : List (String × α)}
    (h : l.Pairwise fun a b => a.1 < b.1) : lookup k l = some v ↔ (k, v) ∈ l := by
  induction l with
  | nil => simp [lookup]
  | cons a rest ih =>
    obtain ⟨hhead, htail⟩ := List.pairwise_cons.mp h
    by_cases hk : k = a.1
    · -- the key of the head is below all keys that follow
      have hrest : (k, v) ∉ rest := fun hmem => String.lt_irrefl k (hk ▸ hhead (k, v) hmem)
      obtain ⟨k', v'⟩ := a
      obtain rfl : k = k' := hk
      simp [lookup, hrest, eq_comm]
    · have hne : (k, v) ≠ a := fun heq => hk (heq ▸ rfl)
      simp [lookup, hk, hne, ih htail]

theorem get?_eq_some_iff {t : Table α} {k : String} {v : α} :
    t.get? k = some v ↔ (k, v) ∈ t.entries :=
  lookup_eq_some_iff t.sorted

@[simp]
theorem get?_filter (t : Table α) (p : String → α → Bool) (k : String) :
    (t.filter p).get? k = (t.get? k).filter (p k) := by
  ext v
  simp [get?_eq_some_iff, Option.filter_eq_some_iff, filter]

theorem mem_keys {t : Table α} {k : String} : k ∈ t.keys ↔ ∃ v, t.get? k = some v := by
  simp [keys, get?_eq_some_iff]

theorem keys_nodup (t : Table α) : t.keys.Nodup :=
  List.pairwise_map.mpr (t.sorted.imp String.ne_of_lt)

theorem length_keys (t : Table α) : t.keys.length = t.size :=
  List.length_map _

end Table

end RemoteUi
