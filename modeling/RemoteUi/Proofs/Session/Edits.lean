/-
# RemoteUi.Proofs.Session.Edits — where the reported edits come from.

Every change of a cell that the server is told of is an edit that the user made in a live grid and
that its column accepted (`edited_of_carriedBy`).  The way from the request back to the edit is gone
step by step:

* a change in an event is that of one of the messages that were gathered
  (`Message.exists_of_mem_events`);
* a message with a change comes from a grid, which was live under the id of the input
  (`grid_of_change`);
* what a grid says of an edit is what its column accepted.

An accepted value is not the present one, with one exception: a number column that need not be
filled is cleared by what it cannot read, also where it is clear (`Reclears`).  So a record that
sets a cell to what it held stems from such an edit, and from no other (`idle_iff_reclears`).

Requests are looked at through the ledger of a run, which lists the events that are due at each
frame with the messages they were gathered from.
-/
import RemoteUi.Proofs.Session.Delivery
import RemoteUi.Proofs.Widget.Grid

namespace RemoteUi

/-! ## Edits among messages -/

/-- The edits of a grid are those of its messages. -/
theorem Message.exists_of_mem_editsOf {key : String} {ms : List Message} {change : CellChange}
    (h : change ∈ editsOf key ms) : ∃ m ∈ ms, m.change? = some change := by
  obtain ⟨m, hm, hedit⟩ := List.mem_filterMap.mp h
  refine ⟨m, hm, ?_⟩
  cases m with
  | cellEdited key' widgetId fragmentId row column value =>
    simp only [editOf?] at hedit
    split at hedit
    · exact hedit
    · cases hedit
  | clicked | valueChanged | downloadRequested | filesSelected => cases hedit

/-- A change in an event is that of one of the messages. -/
theorem Message.exists_of_mem_events {seen : List String} {ms : List Message} {event : Event}
    {changes : List CellChange} {change : CellChange} (hevent : event ∈ events seen ms)
    (hchanges : event.changes = some changes) (hchange : change ∈ changes) :
    ∃ m ∈ ms, m.change? = some change := by
  induction ms generalizing seen with
  | nil => cases hevent
  | cons m ms ih =>
    have hlater : ∀ {seen}, event ∈ events seen ms → ∃ m' ∈ m :: ms, m'.change? = some change := by
      intro seen h
      obtain ⟨m', hm', hm'change⟩ := ih h
      exact ⟨m', List.mem_cons_of_mem m hm', hm'change⟩
    cases m with
    | clicked | valueChanged =>
      rcases List.mem_cons.mp hevent with rfl | h
      · cases hchanges
      · exact hlater h
    | downloadRequested | filesSelected => exact hlater hevent
    | cellEdited key widgetId fragmentId row column value =>
      -- the edits of a grid that was met before are in its batch
      unfold events at hevent
      split at hevent
      · exact hlater hevent
      · rcases List.mem_cons.mp hevent with rfl | h
        · cases hchanges
          rcases List.mem_cons.mp hchange with rfl | hmem
          · exact ⟨_, List.mem_cons_self, rfl⟩
          · obtain ⟨m', hm', hm'change⟩ := exists_of_mem_editsOf hmem
            exact ⟨m', List.mem_cons_of_mem _ hm', hm'change⟩
        · exact hlater h

namespace Widget

variable {w : Widget} {input : Input}

/-- What a widget says about an input is the message that it emits. -/
theorem says_eq_emits (w : Widget) (input : Input) : w.says input = w.emits (.input input) := by
  unfold Widget.says
  simp only [emits]
  cases w.interpret input <;> rfl

/-- Only a grid speaks of edited cells. -/
theorem grid_of_change {w' : Widget} {m : Message} {change : CellChange}
    (h : w.interpret input = .ok (w', some m)) (hchange : m.change? = some change) :
    ∃ g, w.state = .dataGrid g := by
  unfold interpret at h
  split at h
  case h_9 g hstate => exact ⟨g, hstate⟩
  case h_4 =>
    -- a button starts a download or is clicked
    split at h
    · cases h
      cases hchange
    · cases h
      cases hchange
  all_goals cases h
  all_goals cases hchange

/-- An edit that is spoken of was accepted by a cell that may be edited. -/
theorem edited_of_says {m : Message} {change : CellChange} (hm : w.says input = some m)
    (hchange : m.change? = some change) :
    ∃ g c old typed, w.state = .dataGrid g ∧ input = .editCell change.row change.column typed ∧
      g.Editable change.row change.column c old ∧
      CellVerdict.judge c old typed = .accept change.value := by
  rw [says_eq_emits] at hm
  have hreports : w.reports (.input input) = [change] := by
    rw [reports, hm, Option.bind_some, hchange]
    rfl
  obtain ⟨g, hstate⟩ : ∃ g, w.state = .dataGrid g := by
    simp only [emits] at hm
    split at hm
    · rename_i w' message hinterpret
      obtain rfl := hm
      exact grid_of_change hinterpret hchange
    · cases hm
  generalize ho : Occurrence.input input = o at hreports
  cases undergoes hstate o with
  | kept height hkept hnone =>
    rw [hnone] at hreports
    cases hreports
  | @edited row column typed value c old hcell hverdict hwritten hone =>
    rw [hone] at hreports
    cases hreports
    cases ho
    exact ⟨g, c, old, typed, hstate, rfl, hcell, hverdict⟩

end Widget

namespace Session

variable {s : Session} {x : Stimulus} {ms : List Message} {change : CellChange}

/-- The change is an edit that the stimulus makes in a live grid: the cell may be edited, and its
column accepts the value for what was typed. -/
structure Edited (s : Session) (x : Stimulus) (change : CellChange) (c : Column)
    (old typed : Json) : Prop where
  typed_eq : ∃ id, x = .action ⟨id, .editCell change.row change.column typed⟩ ∧
    ∃ h w g, s.screen.pool.lookup id = some h ∧ s.screen.pool.get? h = some w ∧
      w.state = .dataGrid g ∧ g.Editable change.row change.column c old
  verdict : CellVerdict.judge c old typed = .accept change.value

/-- An edit among the messages that a stimulus produces is made by it. -/
theorem edited_of_produced {m : Message} (hm : m ∈ s.produced x)
    (hchange : m.change? = some change) : ∃ c old typed, s.Edited x change c old typed := by
  cases x with
  | opening | message | frame | drain | lost => cases hm
  | action a =>
    obtain ⟨id, input⟩ := a
    simp only [produced] at hm
    split at hm
    · obtain ⟨m', hanswer, hreported⟩ := Option.bind_eq_some_iff.mp (Option.mem_toList.mp hm)
      -- what is reported of another message is no edit
      have hsame : m' = m := by
        cases m' with
        | cellEdited | clicked | valueChanged => exact Option.some.inj hreported
        | downloadRequested => cases hreported
        | filesSelected =>
          cases hreported
          cases hchange
      obtain rfl := hsame
      obtain ⟨w, hlive, hsays⟩ := Option.bind_eq_some_iff.mp hanswer
      obtain ⟨h, hlookup, hw⟩ := Option.bind_eq_some_iff.mp hlive
      obtain ⟨g, c, old, typed, hstate, rfl, hcell, hverdict⟩ :=
        Widget.edited_of_says hsays hchange
      exact ⟨c, old, typed, ⟨id, rfl, h, w, g, hlookup, hw, hstate, hcell⟩, hverdict⟩
    · cases hm

theorem exists_of_mem_due {event : Event} {changes : List CellChange} (hevent : event ∈ s.due ms)
    (hchanges : event.changes = some changes) (hchange : change ∈ changes) :
    ∃ m ∈ ms, m.change? = some change := by
  rcases List.mem_append.mp hevent with hmessage | hgroup
  · exact Message.exists_of_mem_events hmessage hchanges hchange
  · obtain ⟨c, -, rfl⟩ := List.mem_map.mp hgroup
    cases hchanges

/-- A change that the requests of a run carry was gathered before it, or is an edit made in it. -/
theorem edited_of_ledger {run : List Stimulus} {event : Event} {changes : List CellChange}
    (hevent : event ∈ s.ledger ms run) (hchanges : event.changes = some changes)
    (hchange : change ∈ changes) :
    (∃ m ∈ ms, m.change? = some change) ∨
      ∃ earlier x, earlier ++ [x] <+: run ∧
        ∃ c old typed, (s.after earlier).Edited x change c old typed := by
  induction run generalizing s ms with
  | nil => cases hevent
  | cons x rest ih =>
    have hlonger : ∀ earlier y, earlier ++ [y] <+: rest → x :: earlier ++ [y] <+: x :: rest :=
      fun earlier y h => List.cons_prefix_cons.mpr ⟨rfl, h⟩
    -- a frame sends what was gathered, and anything else gathers what it produces
    unfold ledger at hevent
    split at hevent
    · rcases List.mem_append.mp hevent with hdue | hevent
      · refine Or.inl (exists_of_mem_due (s := s) ?_ hchanges hchange)
        unfold accepted at hdue
        split at hdue
        · exact hdue
        · cases hdue
      · -- a frame leaves nothing gathered
        rcases ih hevent with ⟨m, hm, -⟩ | ⟨earlier, y, hprefix, hedited⟩
        · cases hm
        · exact Or.inr ⟨x :: earlier, y, hlonger earlier y hprefix, hedited⟩
    · rcases ih hevent with ⟨m, hm, hmchange⟩ | ⟨earlier, y, hprefix, hedited⟩
      · rcases List.mem_append.mp hm with hm | hm
        · exact Or.inl ⟨m, hm, hmchange⟩
        · exact Or.inr ⟨[], x, ⟨rest, rfl⟩, edited_of_produced hm hmchange⟩
      · exact Or.inr ⟨x :: earlier, y, hlonger earlier y hprefix, hedited⟩

/-- Whatever edit the server is told of, the user made it. -/
theorem edited_of_carriedBy {run : List Stimulus} {event : Event} {changes : List CellChange}
    {config : Config} {host : Host} (hevent : event ∈ (start config host).carriedBy run)
    (hchanges : event.changes = some changes) (hchange : change ∈ changes) :
    ∃ earlier x, earlier ++ [x] <+: run ∧
      ∃ c old typed, ((start config host).after earlier).Edited x change c old typed := by
  rw [carriedBy_eq_ledger (.start config host) (show _ = [].foldl Gathering.ingest [] from rfl)]
    at hevent
  rcases edited_of_ledger hevent hchanges hchange with ⟨m, hm, -⟩ | hedited
  · cases hm
  · exact hedited

/-- An edit is accepted without effect exactly when it clears a cell that is clear; and a record that
the server is sent sets a cell to what it held exactly when it stems from such an edit. -/
theorem idle_iff_reclears (config : Config) (host : Host) (run : List Stimulus) :
    (∀ column old new, (∃ v, CellVerdict.judge column old new = .accept v ∧ old.same v = true) ↔
      CellVerdict.Reclears column old new) ∧
    ∀ event ∈ (start config host).carriedBy run, ∀ changes, event.changes = some changes →
      ∀ change ∈ changes, ∃ earlier x, earlier ++ [x] <+: run ∧ ∃ c old typed,
        ((start config host).after earlier).Edited x change c old typed ∧
          (old.same change.value = true ↔ CellVerdict.Reclears c old typed) := by
  constructor
  · intro column old new
    constructor
    · rintro ⟨v, haccept, hsame⟩
      exact (CellVerdict.same_of_accept_iff haccept).mp hsame
    · intro h
      exact ⟨.null, h.accepted, (CellVerdict.same_of_accept_iff h.accepted).mpr h⟩
  · intro event hevent changes hchanges change hchange
    obtain ⟨earlier, x, hprefix, c, old, typed, hedited⟩ :=
      edited_of_carriedBy hevent hchanges hchange
    exact ⟨earlier, x, hprefix, c, old, typed, hedited,
      CellVerdict.same_of_accept_iff hedited.verdict⟩

/-- A grid with an empty cell in a column of numbers is shown. -/
def emptyShown : List Stimulus :=
  let grid := .obj [("type", .str "dataframe"), ("id", .str "g"),
    ("initial_value", .arr [.obj [("n", .null)]]),
    ("column_config",
      .obj [("n", .obj [("type", .str "Number"), ("editable", .bool true)])])]
  [.message (.hello "session" none) 0,
    .message (.rerun ⟨none, some (.page [grid]), none, none⟩) 0]

/-- The cell of the live grid is empty. -/
def emptyCell (s : Session) : Bool :=
  ((s.screen.pool.lookup "g").bind s.screen.pool.get?).any fun w =>
    match w.state with
    | .dataGrid g => (g.value? 1 "n").any (Json.same .null)
    | _ => false

/-- A text that is no number is typed into the empty cell, and the server is told of a cell that was
emptied. -/
theorem emptied_again :
    let s := (start .default .minimal).after emptyShown
    let typed : List Stimulus := [.action ⟨"g", .editCell 1 "n" (.str "abc")⟩, .frame 0]
    s.emptyCell = true ∧
      (s.carriedBy typed).map (fun e => e.changes.map fun changes =>
        changes.map fun c => (c.row, c.column, c.value.same .null)) = [some [(1, "n", true)]] := by
  intro s typed
  exact ⟨by decide +kernel, by decide +kernel⟩

end Session

end RemoteUi
