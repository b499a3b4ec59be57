/-
# RemoteUi.Json.Record — records read from documents.

A record is read from an object, by the names of its fields, or from an array, by their order.
In an object the members are taken in the order they were written, unknown keys are passed over,
and the first fault wins; afterwards a field that is required and was not seen is missing.  In an
array the items are the fields in turn; fields beyond its end take their defaults.
-/
import RemoteUi.Json.Mismatch

namespace RemoteUi.Json

/-! ## Readings of one value -/

/-- A text. -/
def readText : Json → Except Mismatch String
  | .str s => .ok s
  | j => .error (.invalidType j "a string")

/-- A truth value. -/
def readFlag : Json → Except Mismatch Bool
  | .bool b => .ok b
  | j => .error (.invalidType j "a boolean")

/-- A natural number of at most 64 bits. -/
def readNat : Json → Except Mismatch Nat
  | .int (.ofNat n) => .ok n
  | .int i => .error (.invalidValue (.int i) "u64")
  | j => .error (.invalidType j "u64")

/-- Any document, as the value it denotes. -/
def readAny (j : Json) : Except Mismatch Json :=
  .ok j.merged

/-- A reading that takes `null` for absence. -/
def readOption {α : Type} (read : Json → Except Mismatch α) : Json → Except Mismatch (Option α)
  | .null => .ok none
  | j => (read j).map some

/-- A list, each item with the same reading. -/
def readList {α : Type} (read : Json → Except Mismatch α) : Json → Except Mismatch (List α)
  | .arr items => items.mapM read
  | j => .error (.invalidType j "a sequence")

/-- The members of an object, as the value it denotes. -/
def readMembers : Json → Except Mismatch Members
  | .obj members => .ok (mergedMembers members [])
  | j => .error (.invalidType j "a map")

/-! ## Records -/

/-- One field of a record of type `σ`: how a document found there changes the record. -/
structure Field (σ : Type) where
  name : String
  required : Bool
  put : Json → σ → Except Mismatch σ

/-- A field that may be left out. -/
def Field.optional {σ α : Type} (name : String) (read : Json → Except Mismatch α)
    (put : α → σ → σ) : Field σ :=
  ⟨name, false, fun j s => (read j).map fun a => put a s⟩

/-- A field that must be there. -/
def Field.mandatory {σ α : Type} (name : String) (read : Json → Except Mismatch α)
    (put : α → σ → σ) : Field σ :=
  ⟨name, true, fun j s => (read j).map fun a => put a s⟩

/-- The shape of a record: what messages call it, its fields in order, and the record in which
every field has its default. -/
structure Record (σ : Type) where
  name : String
  fields : List (Field σ)
  blank : σ

namespace Record

variable {σ : Type}

/-- Takes the members in turn; `seen` are the fields met so far. -/
def fill (fields : List (Field σ)) : Members → List String → σ → Except Mismatch (List String × σ)
  | [], seen, s => .ok (seen, s)
  | (k, j) :: rest, seen, s =>
    match fields.find? (fun f => f.name = k) with
    | none => fill fields rest seen s
    | some f =>
      if k ∈ seen then .error (.duplicateField k)
      else
        match f.put j s with
        | .error e => .error e
        | .ok s => fill fields rest (k :: seen) s

/-- Reads the record from the members of an object. -/
def ofMembers (r : Record σ) (members : Members) : Except Mismatch σ :=
  match fill r.fields members [] r.blank with
  | .error e => .error e
  | .ok (seen, s) =>
    match r.fields.find? fun f => f.required && !seen.contains f.name with
    | some f => .error (.missingField f.name)
    | none => .ok s

/-- Takes the items in turn for the fields from position `i` on. -/
def fillItems (wanted : String) :
    List (Field σ) → List Json → Nat → σ → Except Mismatch σ
  | [], [], _, s => .ok s
  | [], extra, i, _ => .error (.tooLong (i + extra.length) i)
  | f :: fields, [], i, s =>
    if f.required then .error (.tooShort i wanted) else fillItems wanted fields [] (i + 1) s
  | f :: fields, j :: items, i, s =>
    match f.put j s with
    | .error e => .error e
    | .ok s => fillItems wanted fields items (i + 1) s

/-- Reads the record from the items of an array. -/
def ofItems (r : Record σ) (items : List Json) : Except Mismatch σ :=
  fillItems (r.name ++ " with " ++ elements r.fields.length) r.fields items 0 r.blank

/-- Reads the record from a document. -/
def read (r : Record σ) : Json → Except Mismatch σ
  | .obj members => r.ofMembers members
  | .arr items => r.ofItems items
  | j => .error (.invalidType j r.name)

/-! ## What holds of every record that is read -/

variable {P : σ → Prop}

/-- Every field keeps a property, whatever document stands in its place. -/
def Keeps (P : σ → Prop) (fields : List (Field σ)) : Prop :=
  ∀ f ∈ fields, ∀ j s s', P s → f.put j s = .ok s' → P s'

theorem fill_keeps {fields : List (Field σ)} (hput : Keeps P fields) {members : Members}
    {seen seen' : List String} {s s' : σ} (hs : P s)
    (h : fill fields members seen s = .ok (seen', s')) : P s' := by
  induction members generalizing seen s with
  | nil =>
    cases h
    exact hs
  | cons m rest ih =>
    obtain ⟨k, j⟩ := m
    simp only [fill] at h
    split at h
    · exact ih hs h
    · rename_i f hf
      split at h
      · cases h
      · split at h
        · cases h
        · rename_i t ht
          exact ih (hput f (List.mem_of_find?_eq_some hf) j s t hs ht) h

theorem fillItems_keeps {wanted : String} {fields : List (Field σ)} (hput : Keeps P fields)
    {items : List Json} {i : Nat} {s s' : σ} (hs : P s)
    (h : fillItems wanted fields items i s = .ok s') : P s' := by
  induction fields generalizing items i s with
  | nil =>
    cases items with
    | nil =>
      cases h
      exact hs
    | cons j rest => cases h
  | cons f fields ih =>
    have hrest : Keeps P fields := fun g hg => hput g (List.mem_cons_of_mem f hg)
    cases items with
    | nil =>
      simp only [fillItems] at h
      split at h
      · cases h
      · exact ih hrest hs h
    | cons j rest =>
      simp only [fillItems] at h
      split at h
      · cases h
      · rename_i t ht
        exact ih hrest (hput f List.mem_cons_self j s t hs ht) h

/-- What the blank record has and every field keeps, every record that is read has. -/
theorem read_keeps {r : Record σ} (hput : Keeps P r.fields) (hblank : P r.blank) {j : Json} {s : σ}
    (h : r.read j = .ok s) : P s := by
  cases j with
  | obj members =>
    simp only [read, ofMembers] at h
    split at h
    · cases h
    · rename_i seen t ht
      split at h
      · cases h
      · cases h
        exact fill_keeps hput hblank ht
  | arr items => exact fillItems_keeps hput hblank h
  | null | bool | int | float | str => cases h

end Record

end RemoteUi.Json
