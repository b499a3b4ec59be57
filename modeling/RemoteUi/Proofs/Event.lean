/-
# RemoteUi.Proofs.Event — what is read from the JSON form of an event.

The JSON form of an event keeps an explicit `null` apart from a value that is absent.  Reading does
not: it gives back the event but for those of its two values that are `null` (`read_toJson`).  So an
event is read from its own JSON form exactly if neither is (`reads_back_iff`); all else comes back
as it was, the `null`s in grids and further inside the values included.

* An object is read by its last value for each key, and so as itself if it has no key twice
  (`merged_of_isValue`).  `IsValue` is that condition, at every depth, and `Event.OfValues` asks it
  of what an event holds.
* An event is written member by member, and read member by member by a fold that notes the keys it
  has seen (`Record.fill`).  There are two lemmas for it, one for a member that is always written
  and one for a member that may be left out (`fill_mandatory`, `fill_optional`).  Going through the
  six members one after the other gives `fill_members`.
* A member that may be left out is read as absent when it is `null`, which is what `nonNull?` says.

For an edited cell, the value is always written and always read, so that a cell can be emptied.
-/
import RemoteUi.Event
import RemoteUi.Proofs.Json.Reading

namespace RemoteUi

/-! ## Values -/

namespace Json

open Record (keys)

mutual
/-- The document is a value: no object in it has a key twice. -/
def IsValue : Json → Prop
  | .arr items => AreValues items
  | .obj members => (keys members).Nodup ∧ HoldValues members
  | _ => True

/-- All items of an array are values. -/
def AreValues : List Json → Prop
  | [] => True
  | j :: rest => j.IsValue ∧ AreValues rest

/-- All members of an object hold values. -/
def HoldValues : Members → Prop
  | [] => True
  | (_, j) :: rest => j.IsValue ∧ HoldValues rest
end

/-- A key that is new is put at the end. -/
theorem Members.set_of_not_mem {k : String} {v : Json} {members : Members}
    (h : k ∉ keys members) : set k v members = members ++ [(k, v)] := by
  induction members with
  | nil => rfl
  | cons m rest ih =>
    simp only [keys, List.map_cons, List.mem_cons, not_or] at h
    rw [set, if_neg h.1, ih h.2]
    rfl

mutual
/-- A value denotes itself. -/
theorem merged_of_isValue : ∀ {j : Json}, j.IsValue → j.merged = j
  | .arr items, h => by
    simp only [IsValue] at h
    rw [merged, mergedItems_of_areValues h]
  | .obj members, h => by
    simp only [IsValue] at h
    rw [merged, mergedMembers_of_holdValues h.2 [] h.1]
    rfl
  | .null, _ | .bool _, _ | .int _, _ | .float _, _ | .str _, _ => rfl

theorem mergedItems_of_areValues :
    ∀ {items : List Json}, AreValues items → mergedItems items = items
  | [], _ => rfl
  | j :: rest, h => by
    simp only [AreValues] at h
    rw [mergedItems, merged_of_isValue h.1, mergedItems_of_areValues h.2]

theorem mergedMembers_of_holdValues : ∀ {members : Members}, HoldValues members → ∀ before,
    (keys (before ++ members)).Nodup → mergedMembers members before = before ++ members
  | [], _, before, _ => (List.append_nil before).symm
  | (k, j) :: rest, h, before, hkeys => by
    simp only [HoldValues] at h
    have hnew : k ∉ keys before := by
      intro hmem
      rw [keys, List.map_append, List.nodup_append] at hkeys
      exact hkeys.2.2 k hmem k List.mem_cons_self rfl
    rw [mergedMembers, merged_of_isValue h.1, Members.set_of_not_mem hnew,
      mergedMembers_of_holdValues h.2 _ (by rwa [List.append_assoc]), List.append_assoc]
    rfl
end

/-- The value, unless it is `null`. -/
def nonNull? : Json → Option Json
  | .null => none
  | j => some j

/-- Only `null` is lost. -/
theorem nonNull?_eq_some_self_iff {j : Json} : j.nonNull? = some j ↔ j ≠ .null := by
  cases j <;> simp [nonNull?]

theorem bind_nonNull?_eq_self_iff (o : Option Json) : o.bind nonNull? = o ↔ o ≠ some .null := by
  cases o with
  | none => simp
  | some j =>
    rw [Option.bind_some, nonNull?_eq_some_self_iff]
    simp

/-- A value is read as itself, and `null` as none. -/
theorem readOption_readAny {j : Json} (h : j.IsValue) : readOption readAny j = .ok j.nonNull? := by
  have hmerged := merged_of_isValue h
  cases j with
  | null => rfl
  | bool | int | float | str | arr | obj =>
    simp only [readOption, readAny, Except.map, hmerged, nonNull?]

/-- What is read of a value that may be absent, if it is there. -/
theorem readOption_of_values {v : Option Json} (h : ∀ j ∈ v, j.IsValue) :
    ∀ j, v = some j → readOption readAny j = .ok (v.bind nonNull?) := by
  rintro j rfl
  exact readOption_readAny (h j rfl)

end Json

open Json (Members Record)

/-! ## Edited cells -/

/-- A cell that holds a value is read from its JSON form. -/
theorem CellChange.read_toJson {c : CellChange} (h : c.value.IsValue) :
    CellChange.record.read c.toJson = .ok c := by
  obtain ⟨row, column, value⟩ := c
  refine Record.read_obj_eq_ok.mpr ⟨["new_value", "column_name", "row_index"], ?_, ?_⟩
  · simp [CellChange.record, Record.fill, Json.Field.mandatory, Json.readNat, Json.readText,
      Json.readAny, Except.map, Json.merged_of_isValue h]
  · simp [CellChange.record, Record.keys]

/-- A list of cells is read from its JSON form, cell by cell. -/
theorem readList_toJson {cs : List CellChange} (h : ∀ c ∈ cs, c.value.IsValue) :
    Json.readList CellChange.record.read (.arr (cs.map CellChange.toJson)) = .ok cs := by
  rw [Json.readList]
  induction cs with
  | nil => rfl
  | cons c rest ih =>
    obtain ⟨hc, hrest⟩ := List.forall_mem_cons.mp h
    rw [List.map_cons, List.mapM_cons, CellChange.read_toJson hc]
    show (do let cs ← (rest.map CellChange.toJson).mapM CellChange.record.read; pure (c :: cs)) = _
    rw [ih hrest]
    rfl

/-- Edited cells are read as they were written, if they are there. -/
theorem readOption_changes {changes : Option (List CellChange)}
    (h : ∀ cs ∈ changes, ∀ c ∈ cs, c.value.IsValue) :
    ∀ j, (changes.map fun cs => .arr (cs.map CellChange.toJson)) = some j →
      Json.readOption (Json.readList CellChange.record.read) j = .ok changes := by
  intro j hj
  obtain ⟨cs, rfl, rfl⟩ := Option.map_eq_some_iff.mp hj
  show (Json.readList CellChange.record.read (.arr (cs.map CellChange.toJson))).map some = _
  rw [readList_toJson (h cs rfl)]
  rfl

/-! ## Members in turn -/

namespace Json.Record

variable {σ α : Type} {fields : List (Field σ)} {read : Json → Except Mismatch α}
  {put : α → σ → σ} {a : α} {k : String} {seen : List String} {s : σ} {rest : Members}

/-- A member that has to be there sets its field. -/
theorem fill_mandatory {j : Json}
    (hfind : fields.find? (fun f => f.name = k) = some (.mandatory k read put)) (hnew : k ∉ seen)
    (hread : read j = .ok a) :
    fill fields ((k, j) :: rest) seen s = fill fields rest (k :: seen) (put a s) := by
  simp [fill, hfind, hnew, Field.mandatory, hread, Except.map]

/-- A member that may be left out sets its field, unless its absence means the same. -/
theorem fill_optional {v : Option Json}
    (hfind : fields.find? (fun f => f.name = k) = some (.optional k read put)) (hnew : k ∉ seen)
    (hread : ∀ j, v = some j → read j = .ok a) (hnone : v = none → put a s = s) :
    fill fields (Members.optional k v ++ rest) seen s =
      fill fields rest (keys (Members.optional k v) ++ seen) (put a s) := by
  cases v with
  | none =>
    rw [hnone rfl]
    rfl
  | some j =>
    have hput : (Field.optional k read put).put j s = .ok (put a s) :=
      Field.optional_eq_ok.mpr ⟨a, hread j rfl, rfl⟩
    simp [Members.optional, keys, fill, hfind, hnew, hput]

/-- A member that is left out has no key. -/
theorem mem_keys_optional {k' : String} {v : Option Json} :
    k' ∈ keys (Members.optional k v) ↔ k' = k ∧ v.isSome := by
  cases v <;> simp [Members.optional, keys]

end Json.Record

/-! ## Events -/

/-- A kind is read from its name. -/
theorem EventKind.ofName_name (k : EventKind) : ofName k.name = .ok k := by
  cases k <;> rfl

namespace Event

/-- What the event holds are values. -/
structure OfValues (e : Event) : Prop where
  oldValue : ∀ j ∈ e.oldValue, j.IsValue
  newValue : ∀ j ∈ e.newValue, j.IsValue
  changes : ∀ cs ∈ e.changes, ∀ c ∈ cs, c.value.IsValue

/-- The event without those of its two values that are `null`. -/
def withoutNulls (e : Event) : Event :=
  { e with oldValue := e.oldValue.bind Json.nonNull?, newValue := e.newValue.bind Json.nonNull? }

/-- The id as a member: left out if it is empty. -/
def namedBy (e : Event) : Option Json :=
  if e.widgetId = "" then none else some (.str e.widgetId)

/-- Only the empty id is left out. -/
theorem namedBy_eq_none {e : Event} (h : e.namedBy = none) : e.widgetId = "" := by
  unfold namedBy at h
  split at h
  · assumption
  · cases h

/-- The id is read as it was written. -/
theorem readText_namedBy (e : Event) :
    ∀ j, e.namedBy = some j → Json.readText j = .ok e.widgetId := by
  intro j hj
  unfold namedBy at hj
  split at hj
  · cases hj
  · cases hj
    rfl

/-- The members of the JSON form of an event. -/
def members (e : Event) : Members :=
  ("type", .str e.kind.name) :: (Members.optional "widget_id" e.namedBy ++
    ("fragment_id", .str e.fragmentId) :: (Members.optional "old_value" e.oldValue ++
      (Members.optional "new_value" e.newValue ++
        (Members.optional "changes" (e.changes.map fun cs => .arr (cs.map CellChange.toJson)) ++
          []))))

theorem toJson_eq (e : Event) : e.toJson = .obj e.members := by
  have hid : (if e.widgetId = "" then [] else [("widget_id", Json.str e.widgetId)]) =
      Members.optional "widget_id" e.namedBy := by
    unfold namedBy
    split <;> rfl
  rw [toJson, hid, members]
  simp only [List.append_assoc, List.cons_append, List.nil_append, List.append_nil]

/-- Member by member, an event is filled with what it holds. -/
theorem fill_members {e : Event} (h : e.OfValues) :
    ∃ seen, Record.fill record.fields e.members [] record.blank = .ok (seen, e.withoutNulls) := by
  have hkind : Json.readVariant EventKind.ofName (.str e.kind.name) = .ok e.kind :=
    e.kind.ofName_name
  have hfragment : Json.readText (.str e.fragmentId) = .ok e.fragmentId := rfl
  have hold := Json.readOption_of_values h.oldValue
  have hnew := Json.readOption_of_values h.newValue
  have hchanges := readOption_changes h.changes
  -- a member that is left out would have set its field to what it is
  apply Exists.intro
  refine (Record.fill_mandatory rfl (by simp) hkind).trans ?_
  refine (Record.fill_optional rfl (by simp) e.readText_namedBy ?_).trans ?_
  · intro hnone
    rw [namedBy_eq_none hnone]
    rfl
  refine (Record.fill_mandatory rfl (by simp [Record.mem_keys_optional]) hfragment).trans ?_
  refine (Record.fill_optional rfl (by simp [Record.mem_keys_optional]) hold ?_).trans ?_
  · intro hnone
    rw [hnone]
    rfl
  refine (Record.fill_optional rfl (by simp [Record.mem_keys_optional]) hnew ?_).trans ?_
  · intro hnone
    rw [hnone]
    rfl
  refine (Record.fill_optional rfl (by simp [Record.mem_keys_optional]) hchanges ?_).trans ?_
  · intro hnone
    rw [Option.map_eq_none_iff.mp hnone]
    rfl
  rfl

/-- An event is read from its JSON form, but for those of its two values that are `null`. -/
theorem read_toJson {e : Event} (h : e.OfValues) : read e.toJson = .ok e.withoutNulls := by
  obtain ⟨seen, hfill⟩ := fill_members h
  rw [toJson_eq]
  refine Record.read_obj_eq_ok.mpr ⟨seen, hfill, ?_⟩
  simp [record, members, Record.keys]

theorem withoutNulls_eq_self_iff {e : Event} :
    e.withoutNulls = e ↔ e.oldValue ≠ some .null ∧ e.newValue ≠ some .null := by
  obtain ⟨kind, widgetId, fragmentId, oldValue, newValue, changes⟩ := e
  simp [withoutNulls, Json.bind_nonNull?_eq_self_iff]

/-- An event is always read from its own JSON form, and all of it is read but a `null` for one of
its two values, which is read as absent.  So it is read back as it was exactly if neither is
`null`. -/
theorem reads_back_iff (e : Event) (h : e.OfValues) :
    read e.toJson = .ok e.withoutNulls ∧
      (read e.toJson = .ok e ↔ e.oldValue ≠ some .null ∧ e.newValue ≠ some .null) := by
  refine ⟨read_toJson h, ?_⟩
  rw [read_toJson h, Except.ok.injEq]
  exact withoutNulls_eq_self_iff

/-- A batch of edits of a widget that the server has not named: a cell is emptied, and the old value
holds a `null`. -/
def batch : Event where
  kind := .batchedChange
  widgetId := ""
  fragmentId := "page"
  oldValue := some (.obj [("rows", .arr [.null, .int 3]), ("note", .null)])
  newValue := none
  changes := some [⟨0, "name", .null⟩, ⟨2, "price", .arr []⟩]

theorem ofValues_batch : batch.OfValues where
  oldValue := by simp [batch, Json.IsValue, Json.AreValues, Json.HoldValues, Record.keys]
  newValue := by simp [batch]
  changes := by simp [batch, Json.IsValue, Json.AreValues]

/-- The batch is read back as it was. -/
theorem batch_reads_back : batch.OfValues ∧ read batch.toJson = .ok batch :=
  ⟨ofValues_batch, (reads_back_iff batch ofValues_batch).2.mpr ⟨by simp [batch], by simp [batch]⟩⟩

/-- A text field is emptied. -/
def emptied : Event :=
  change "name" "frag" none .null

/-- The `null` that empties the field is read as no new value at all. -/
theorem null_read_as_absent :
    emptied.OfValues ∧ read emptied.toJson = .ok { emptied with newValue := none } ∧
      read emptied.toJson ≠ .ok emptied := by
  have hvalues : emptied.OfValues :=
    ⟨by simp [emptied, change], by simp [emptied, change, Json.IsValue], by simp [emptied, change]⟩
  refine ⟨hvalues, read_toJson hvalues, ?_⟩
  rw [read_toJson hvalues]
  simp [withoutNulls, emptied, change, Json.nonNull?]

end Event

end RemoteUi
