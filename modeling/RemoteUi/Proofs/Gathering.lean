/-
# RemoteUi.Proofs.Gathering — what gathered messages come to.

Messages are gathered one by one, and an edit may be added to a batch that was begun long before it.
What comes of it can be read off the messages themselves: an event for each click and each change of
value, in order, and one for all edits of a grid, at the place of the first.  Here this is shown,
and each event is told by its fields, so that nothing rests on the functions that events are made
with.

* `Message.events` goes over the messages with the keys of the grids that were seen.  What is
  gathered is compared with it by induction over the messages (`toEvent_foldl_ingest`).  A batch
  that was begun is taken with the edits that are still to come (`Gathered.extended`), which is what
  makes the induction go through; it needs that no two batches have one key.
* `Message.eventAt` says which event the message at a position has, if it has any.  That both come
  to the same is by induction too, with the messages before as the state (`events_eq_range'`).
* Of the edits of one grid, exactly one has an event (`countP_opens`).
* A gathering that is drained again and again hands over the events of the messages since it was
  last drained, followed by those of the changed groups (`drained_eq`).

Downloads and selections of files are messages that have no event.
-/
import RemoteUi.Gathering

namespace RemoteUi

namespace Message

/-- The edit of a cell, if it is in the grid with a key. -/
def editOf? (key : String) : Message → Option CellChange
  | .cellEdited k _ _ row column value => if k = key then some ⟨row, column, value⟩ else none
  | _ => none

/-- The edits of the grid with a key, in order. -/
def editsOf (key : String) (ms : List Message) : List CellChange :=
  ms.filterMap (editOf? key)

/-- The events of messages, after edits of the grids with the keys that were seen.  Each is told by
all its fields, so that nothing rests on the functions that events are made with. -/
def events (seen : List String) : List Message → List Event
  | [] => []
  | .clicked widgetId fragmentId :: rest =>
    { kind := .click, widgetId, fragmentId, oldValue := none, newValue := none, changes := none } ::
      events seen rest
  | .valueChanged widgetId fragmentId old new :: rest =>
    { kind := .change, widgetId, fragmentId, oldValue := old, newValue := some new,
      changes := none } :: events seen rest
  | .cellEdited key widgetId fragmentId row column value :: rest =>
    if key ∈ seen then events seen rest
    else
      { kind := .batchedChange, widgetId, fragmentId, oldValue := none, newValue := none,
        changes := some (⟨row, column, value⟩ :: editsOf key rest) } :: events (seen ++ [key]) rest
  | .downloadRequested _ _ _ :: rest => events seen rest
  | .filesSelected _ _ _ _ _ :: rest => events seen rest

/-- An edit of the grid is the first of those that follow. -/
theorem editsOf_cons_self (key widgetId fragmentId : String) (row : Nat) (column : String)
    (value : Json) (ms : List Message) :
    editsOf key (.cellEdited key widgetId fragmentId row column value :: ms) =
      ⟨row, column, value⟩ :: editsOf key ms :=
  List.filterMap_cons_some (if_pos rfl)

/-- A message that is no edit of the grid does not count. -/
theorem editsOf_cons_of_none {key : String} {m : Message} (h : m.editOf? key = none)
    (ms : List Message) : editsOf key (m :: ms) = editsOf key ms :=
  List.filterMap_cons_none h

/-- Edits are in the order of the messages. -/
theorem editsOf_append (key : String) (ms ms' : List Message) :
    editsOf key (ms ++ ms') = editsOf key ms ++ editsOf key ms' :=
  List.filterMap_append

/-- A grid was edited if it was edited before or by the last message. -/
theorem editsOf_concat_ne_nil {key : String} {ms : List Message} {m : Message} :
    editsOf key (ms ++ [m]) ≠ [] ↔ editsOf key ms ≠ [] ∨ (m.editOf? key).isSome := by
  rw [editsOf_append]
  cases hm : m.editOf? key with
  | none => simp [editsOf, hm]
  | some change => simp [editsOf, hm]

theorem isSome_editOf?_cellEdited {key k widgetId fragmentId : String} {row : Nat} {column : String}
    {value : Json} :
    ((cellEdited k widgetId fragmentId row column value).editOf? key).isSome ↔ k = key := by
  simp only [editOf?]
  split <;> simp [*]

/-! ## The event at a position -/

/-- The message at a position is the first edit of the grid with a key. -/
def opens (ms : List Message) (key : String) (i : Nat) : Bool :=
  (editsOf key (ms.take i)).isEmpty && ms[i]?.any fun m => (m.editOf? key).isSome

/-- The event that the message at a position has.  A click and a change of value have one with their
ids, and a change with its values as well.  The first edit of a grid has one with its ids and all
edits of the grid, and the others have none. -/
def eventAt (ms : List Message) (i : Nat) : Option Event :=
  match ms[i]? with
  | some (.clicked widgetId fragmentId) => some
    { kind := .click, widgetId, fragmentId, oldValue := none, newValue := none, changes := none }
  | some (.valueChanged widgetId fragmentId old new) => some
    { kind := .change, widgetId, fragmentId, oldValue := old, newValue := some new,
      changes := none }
  | some (.cellEdited key widgetId fragmentId _ _ _) =>
    if opens ms key i then some
      { kind := .batchedChange, widgetId, fragmentId, oldValue := none, newValue := none,
        changes := some (editsOf key ms) }
    else none
  | some (.downloadRequested _ _ _) | some (.filesSelected _ _ _ _ _) | none => none

/-- After other messages, the events are those that the messages have at their positions. -/
theorem events_eq_range' (ms : List Message) : ∀ (before : List Message) (seen : List String),
    (∀ key, key ∈ seen ↔ editsOf key before ≠ []) →
      events seen ms = (List.range' before.length ms.length).filterMap (eventAt (before ++ ms)) := by
  induction ms with
  | nil =>
    intro before seen _
    rfl
  | cons m rest ih =>
    intro before seen hseen
    have hat : (before ++ m :: rest)[before.length]? = some m := by simp
    -- what was met before the rest is what was met before, and the message
    have hrest : ∀ seen', (∀ key, key ∈ seen' ↔ key ∈ seen ∨ (m.editOf? key).isSome) →
        events seen' rest =
          (List.range' (before.length + 1) rest.length).filterMap
            (eventAt (before ++ m :: rest)) := by
      intro seen' hseen'
      have h := ih (before ++ [m]) seen' fun key => by
        rw [editsOf_concat_ne_nil, ← hseen key, hseen' key]
      rwa [List.length_append, List.append_assoc] at h
    rw [List.length_cons, List.range'_succ, List.filterMap_cons]
    cases m with
    | clicked | valueChanged | downloadRequested | filesSelected =>
      rw [events, eventAt, hat, hrest seen fun key => by simp [editOf?]]
    | cellEdited key widgetId fragmentId row column value =>
      have hopens : opens (before ++ cellEdited key widgetId fragmentId row column value :: rest) key
          before.length = (editsOf key before).isEmpty := by
        simp [opens, editOf?]
      rw [events, eventAt, hat]
      dsimp only
      rw [hopens]
      by_cases hkey : key ∈ seen
      -- the edit is in the batch that an earlier one has opened
      · have hsome : editsOf key before ≠ [] := (hseen key).mp hkey
        have hsame : ∀ k, k ∈ seen ↔ k ∈ seen ∨
            ((cellEdited key widgetId fragmentId row column value).editOf? k).isSome := by
          intro k
          rw [isSome_editOf?_cellEdited]
          exact ⟨Or.inl, fun h => h.elim id fun heq => heq ▸ hkey⟩
        rw [if_pos hkey, if_neg (by simpa using hsome), hrest seen hsame]
      · have hnone : editsOf key before = [] := Classical.not_not.mp (mt (hseen key).mpr hkey)
        have hmore : ∀ k, k ∈ seen ++ [key] ↔ k ∈ seen ∨
            ((cellEdited key widgetId fragmentId row column value).editOf? k).isSome := by
          intro k
          rw [isSome_editOf?_cellEdited, List.mem_append, List.mem_singleton, eq_comm (a := k)]
        rw [if_neg hkey, if_pos (by simp [hnone]), hrest (seen ++ [key]) hmore, editsOf_append, hnone,
          editsOf_cons_self, List.nil_append]

/-- The events of messages are those that the messages have at their positions. -/
theorem events_eq (ms : List Message) :
    events [] ms = (List.range ms.length).filterMap (eventAt ms) := by
  have h := events_eq_range' ms [] [] fun key => by simp [editsOf]
  rwa [List.nil_append, List.length_nil, ← List.range_eq_range'] at h

/-- Of the positions of messages one opens the batch of a grid, if the grid is edited at all. -/
theorem countP_opens (ms : List Message) (key : String) :
    (List.range ms.length).countP (opens ms key) = if (editsOf key ms).isEmpty then 0 else 1 := by
  induction ms with
  | nil => rfl
  | cons m rest ih =>
    rw [List.length_cons, List.range_succ_eq_map, List.countP_cons, List.countP_map]
    cases hm : m.editOf? key with
    | none =>
      have hhead : opens (m :: rest) key 0 = false := by simp [opens, hm]
      have htail : opens (m :: rest) key ∘ Nat.succ = opens rest key := by
        funext i
        simp [opens, editsOf_cons_of_none hm]
      rw [hhead, htail, ih, editsOf_cons_of_none hm]
      rfl
    | some change =>
      have hhead : opens (m :: rest) key 0 = true := by simp [opens, editsOf, hm]
      have htail : ∀ i ∈ List.range rest.length, ¬ (opens (m :: rest) key ∘ Nat.succ) i := by
        intro i _
        simp [opens, editsOf, hm]
      rw [List.countP_eq_zero.mpr htail, hhead]
      simp [editsOf, hm]

end Message

/-- The event of a changed group: its value is new, and what it was before is not said. -/
def GroupChange.event (c : GroupChange) : Event where
  kind := .change
  widgetId := c.widgetId
  fragmentId := c.fragmentId
  oldValue := none
  newValue := some c.value
  changes := none

/-- The key of a batch. -/
def Gathered.key? : Gathered → Option String
  | .event _ => none
  | .batch key _ _ _ => some key

/-- The event of what was gathered, with the edits among messages to come. -/
def Gathered.extended (ms : List Message) : Gathered → Event
  | .event e => e
  | .batch key widgetId fragmentId changes =>
    .batchedChange widgetId fragmentId (changes ++ Message.editsOf key ms)

namespace Gathering

open Message (editsOf editsOf_cons_self editsOf_cons_of_none)

variable {g : Gathering} {key widgetId fragmentId : String}

/-- The keys of the batches, in order. -/
def keys (g : Gathering) : List String :=
  g.filterMap Gathered.key?

/-- The keys are in the order in which the batches were begun. -/
theorem keys_append (g g' : Gathering) : keys (g ++ g') = keys g ++ keys g' :=
  List.filterMap_append

/-- A message that is no edit of a grid that was met adds to no batch. -/
theorem extended_cons {m : Message} (hm : ∀ key ∈ keys g, m.editOf? key = none)
    (ms : List Message) : g.map (Gathered.extended (m :: ms)) = g.map (Gathered.extended ms) := by
  refine List.map_congr_left fun x hx => ?_
  cases x with
  | event e => rfl
  | batch key widgetId fragmentId changes =>
    have hnone := hm key (List.mem_filterMap.mpr ⟨_, hx, rfl⟩)
    rw [Gathered.extended, Gathered.extended, editsOf_cons_of_none hnone]

/-- An edit of a grid that was not met is in no batch. -/
theorem editOf?_of_not_mem {row : Nat} {column : String} {value : Json} (hkey : key ∉ keys g) :
    ∀ k ∈ keys g,
      (Message.cellEdited key widgetId fragmentId row column value).editOf? k = none := by
  intro k hk
  refine if_neg ?_
  rintro rfl
  exact hkey hk

/-- An edit of a grid that was not met begins a batch, behind all that was gathered. -/
theorem addEdit_of_not_mem (hkey : key ∉ keys g) (change : CellChange) :
    addEdit key widgetId fragmentId change g = g ++ [.batch key widgetId fragmentId [change]] := by
  induction g with
  | nil => rfl
  | cons x rest ih =>
    cases x with
    | event e => exact congrArg (Gathered.event e :: ·) (ih hkey)
    | batch k w f changes =>
      obtain ⟨hne, hrest⟩ := not_or.mp fun h => hkey (List.mem_cons.mpr h)
      rw [addEdit, if_neg (Ne.symm hne), ih hrest, List.cons_append]

/-- An edit of a grid that was met is added to its batch, as an edit to come would be. -/
theorem addEdit_of_mem (hg : (keys g).Nodup) (hkey : key ∈ keys g) (row : Nat) (column : String)
    (value : Json) (ms : List Message) :
    keys (addEdit key widgetId fragmentId ⟨row, column, value⟩ g) = keys g ∧
      (addEdit key widgetId fragmentId ⟨row, column, value⟩ g).map (Gathered.extended ms) =
        g.map (Gathered.extended
          (.cellEdited key widgetId fragmentId row column value :: ms)) := by
  induction g with
  | nil => cases hkey
  | cons x rest ih =>
    cases x with
    | event e =>
      obtain ⟨hkeys, hextended⟩ := ih hg hkey
      exact ⟨hkeys, congrArg (e :: ·) hextended⟩
    | batch k w f changes =>
      obtain ⟨hnot, hrest⟩ := List.nodup_cons.mp hg
      rw [addEdit]
      by_cases heq : k = key
      -- no other batch has the key, so the others are as they are
      · subst heq
        rw [if_pos rfl]
        refine ⟨rfl, ?_⟩
        rw [List.map_cons, List.map_cons, extended_cons (editOf?_of_not_mem hnot),
          Gathered.extended, Gathered.extended, editsOf_cons_self, List.append_assoc,
          List.singleton_append]
      · have hmem : key ∈ keys rest := (List.mem_cons.mp hkey).resolve_left (Ne.symm heq)
        obtain ⟨hkeys, hextended⟩ := ih hrest hmem
        have hother : (Message.cellEdited key widgetId fragmentId row column value).editOf? k =
            none := if_neg (Ne.symm heq)
        rw [if_neg heq]
        refine ⟨congrArg (k :: ·) hkeys, ?_⟩
        rw [List.map_cons, List.map_cons, hextended, Gathered.extended, Gathered.extended,
          editsOf_cons_of_none hother]

/-- Where no two batches have the same key, messages extend the batches and add their events. -/
theorem toEvent_foldl_ingest (hg : (keys g).Nodup) (ms : List Message) :
    (ms.foldl ingest g).map Gathered.toEvent =
      g.map (Gathered.extended ms) ++ Message.events (keys g) ms := by
  induction ms generalizing g with
  | nil =>
    rw [Message.events, List.append_nil]
    refine List.map_congr_left fun x _ => ?_
    cases x with
    | event e => rfl
    | batch key w f changes =>
      exact congrArg (Event.batchedChange w f) (List.append_nil changes).symm
  | cons m ms ih =>
    rw [List.foldl_cons]
    cases m with
    | clicked w f =>
      have hkeys : keys (g ++ [.event (.click w f)]) = keys g :=
        (keys_append _ _).trans (List.append_nil _)
      rw [ingest, ih (hkeys ▸ hg), hkeys, List.map_append, List.append_assoc, Message.events,
        extended_cons fun _ _ => rfl]
      rfl
    | valueChanged w f old new =>
      have hkeys : keys (g ++ [.event (.change w f old new)]) = keys g :=
        (keys_append _ _).trans (List.append_nil _)
      rw [ingest, ih (hkeys ▸ hg), hkeys, List.map_append, List.append_assoc, Message.events,
        extended_cons fun _ _ => rfl]
      rfl
    | downloadRequested | filesSelected =>
      rw [ingest, ih hg, Message.events, extended_cons fun _ _ => rfl]
    | cellEdited key w f row column value =>
      rw [ingest, Message.events]
      by_cases hkey : key ∈ keys g
      · -- the batch is extended where it stands, and no event is added
        obtain ⟨hkeys, hextended⟩ := addEdit_of_mem hg hkey row column value ms
        rw [ih (hkeys ▸ hg), hkeys, hextended, if_pos hkey]
      · -- a batch is begun, which the edits still to come will extend
        have hkeys : keys (g ++ [.batch key w f [⟨row, column, value⟩]]) = keys g ++ [key] :=
          keys_append _ _
        have hnodup : (keys g ++ [key]).Nodup := by
          refine List.nodup_append.mpr ⟨hg, List.pairwise_singleton _ key, ?_⟩
          rintro k hk _ hmem rfl
          exact hkey (List.mem_singleton.mp hmem ▸ hk)
        rw [addEdit_of_not_mem hkey, ih (hkeys ▸ hnodup), hkeys, List.map_append, List.append_assoc,
          if_neg hkey, extended_cons (editOf?_of_not_mem hkey)]
        rfl

/-- The events of all that was gathered from nothing. -/
theorem toEvent_gathered (ms : List Message) :
    (ms.foldl ingest []).map Gathered.toEvent = Message.events [] ms :=
  toEvent_foldl_ingest (g := []) List.nodup_nil ms

/-! ## Frames -/

/-- The events of frames, each with the messages that are gathered before it and the groups that it
finds changed. -/
def drained (g : Gathering) : List (List Message × List GroupChange) → List (List Event)
  | [] => []
  | (ms, changes) :: frames =>
    let (rest, events) := (ms.foldl ingest g).drain changes
    events :: drained rest frames

/-- Every frame leaves nothing gathered, so that it has the events of the messages since the frame
before it and of no others: for each message, in order, the one that it has at its position, of which
one and no more stands for all edits of a grid; then one for each changed group. -/
theorem drained_eq (frames : List (List Message × List GroupChange)) :
    (drained [] frames = frames.map fun frame =>
      (List.range frame.1.length).filterMap (Message.eventAt frame.1) ++
        frame.2.map GroupChange.event) ∧
    (∀ ms key, (List.range ms.length).countP (Message.opens ms key) =
      if (editsOf key ms).isEmpty then 0 else 1) ∧
    ∀ g changes, (drain g changes).1 = [] := by
  refine ⟨?_, Message.countP_opens, fun _ _ => rfl⟩
  induction frames with
  | nil => rfl
  | cons frame frames ih =>
    obtain ⟨ms, changes⟩ := frame
    show (ms.foldl ingest []).flush changes :: drained [] frames = _
    rw [ih, flush, toEvent_gathered, Message.events_eq]
    rfl

/-- Two edits of a grid, with a click between them and a download after them, are one event with both,
before that of the click; the next frame has that of a changed group only. -/
example :
    drained []
        [([.cellEdited "main/g" "g" "main" 1 "n" (.int 5), .clicked "b" "side",
            .cellEdited "main/g" "g" "main" 2 "n" .null, .downloadRequested "d" "main" "all.txt"],
          []),
        ([], [⟨"main/c", "c", "main", .arr [.str "x"]⟩])] =
      [[⟨.batchedChange, "g", "main", none, none, some [⟨1, "n", .int 5⟩, ⟨2, "n", .null⟩]⟩,
          ⟨.click, "b", "side", none, none, none⟩],
        [⟨.change, "c", "main", none, some (.arr [.str "x"]), none⟩]] := by
  rfl

end Gathering

end RemoteUi
