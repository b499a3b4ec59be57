/-
# RemoteUi.Proofs.Widget.Grid — a grid is its description and the changes that were reported.

A grid keeps the rows it was made with, and edits write into them; later descriptions bring rows and
columns of their own, which are not looked at.  Of all that happens to a grid only an accepted edit
changes a cell, and it is reported as it is written.  So who knows the first description and applies
the reported changes in order has the rows of the grid (`grid_tracks`).

* What may happen to a live widget is an `Occurrence`: any input at all, or a later description, of
  its own kind or of another one.  A refused input leaves no trace.
* `Undergoes` lists what an occurrence can do to a grid: nothing but the height changes, or an
  accepted edit is written and reported.  That there is no third is the inversion lemma of this
  module (`undergoes`), and all that follows rests on it.
* The invariant of a run is `Shows`: the widget is a grid with the columns it was made with and the
  rows that the changes come to, numbered from one.  One occurrence keeps it (`Shows.undergo`), and
  so does a run (`Shows.undergoAll`), by induction over the occurrences.
* A reported change is licensed (`Licenses`): its row is there, its column may be edited, and in a
  number column the value is a number, or null where the column need not be filled.  A number that
  is not finite is never read from a text; where it is reported, it was given as it is.

The changes are applied to rows without numbers (`CellChange.apply`), as the server has them.  Rows
of a grid are found by their number and those of the description by their place, and
`setRow_numberedFrom` says that these are the same row.
-/
import RemoteUi.Event
import RemoteUi.Proofs.Widget.Verdict
import RemoteUi.Widget.Interpret

namespace RemoteUi

/-- What happens to a live widget. -/
inductive Occurrence where
  | input (input : Input)
  /-- A later tree describes a widget of the same identity. -/
  | described (fragmentId : String) (head : NodeHead) (spec : WidgetSpec)

/-- The change of a cell that a message reports. -/
def Message.change? : Message → Option CellChange
  | .cellEdited _ _ _ row column value => some ⟨row, column, value⟩
  | _ => none

namespace Widget

/-- The widget after an occurrence.  A refused input leaves no trace, and neither does a description
of another kind. -/
def undergo (w : Widget) : Occurrence → Widget
  | .input input =>
    match w.interpret input with
    | .ok (w', _) => w'
    | .error _ => w
  | .described fragmentId head spec => (w.update fragmentId head spec).getD w

/-- What the widget has to say about an occurrence. -/
def emits (w : Widget) : Occurrence → Option Message
  | .input input =>
    match w.interpret input with
    | .ok (_, message) => message
    | .error _ => none
  | .described _ _ _ => none

/-- The changes of cells that an occurrence reports. -/
def reports (w : Widget) (o : Occurrence) : List CellChange :=
  ((w.emits o).bind Message.change?).toList

/-- The widget after a run of occurrences. -/
def undergoAll (w : Widget) (run : List Occurrence) : Widget :=
  run.foldl undergo w

/-- The changes of cells that a run reports, in order. -/
def reportsBy (w : Widget) : List Occurrence → List CellChange
  | [] => []
  | o :: rest => w.reports o ++ (w.undergo o).reportsBy rest

end Widget

/-- The rows of a description with a change made. -/
def CellChange.apply (rows : List Json.Members) (change : CellChange) : List Json.Members :=
  rows.modify (change.row - 1) (Json.Members.set change.column change.value)

namespace Grid

/-! ## Numbered rows -/

/-- Rows numbered in order, the first by the successor of `n`. -/
def numberedFrom (n : Nat) (rows : List Json.Members) : List GridRow :=
  (rows.zipIdx n).map fun r => ⟨r.2 + 1, r.1⟩

/-- The numbers of the rows go up by one. -/
theorem map_index_numberedFrom (n : Nat) (rows : List Json.Members) :
    (numberedFrom n rows).map GridRow.index = List.range' (n + 1) rows.length := by
  induction rows generalizing n with
  | nil => rfl
  | cons r rest ih => exact congrArg (List.cons (n + 1)) (ih (n + 1))

/-- To change the row with a number is to change the row at its place. -/
theorem setRow_numberedFrom (n i : Nat) (f : Json.Members → Json.Members)
    (rows : List Json.Members) :
    setRow (n + i + 1) f (numberedFrom n rows) = numberedFrom n (rows.modify i f) := by
  induction rows generalizing n i with
  | nil =>
    rw [List.modify_nil]
    rfl
  | cons r rest ih =>
    -- numbers go up from the first row, so that the places before the row are passed over
    show (if n + 1 = n + i + 1 then _ else _) = _
    cases i with
    | zero =>
      rw [if_pos rfl]
      rfl
    | succ i =>
      rw [if_neg (by omega)]
      have hrest := ih (n + 1) i
      rw [show n + 1 + i + 1 = n + (i + 1) + 1 by omega] at hrest
      show _ :: setRow (n + (i + 1) + 1) f (numberedFrom (n + 1) rest) = _
      rw [hrest]
      rfl

/-- To write a cell is to make the change in the described rows. -/
theorem setRow_eq_apply {row : Nat} (hpos : 1 ≤ row) (column : String) (value : Json)
    (rows : List Json.Members) :
    setRow row (Json.Members.set column value) (numberedFrom 0 rows) =
      numberedFrom 0 (CellChange.apply rows ⟨row, column, value⟩) := by
  have hset := setRow_numberedFrom 0 (row - 1) (Json.Members.set column value) rows
  rw [show 0 + (row - 1) + 1 = row by omega] at hset
  exact hset

variable {g : Grid} {row : Nat} {column : String} {old : Json}

/-- A cell has a value if its row is there. -/
theorem index_mem_of_value? (h : g.value? row column = some old) :
    row ∈ g.rows.map GridRow.index := by
  obtain ⟨r, hr, -⟩ := Option.map_eq_some_iff.mp h
  have hindex : r.index = row := by simpa using List.find?_some hr
  exact List.mem_map.mpr ⟨r, List.mem_of_find?_eq_some hr, hindex⟩

/-- The cell may be edited: its column allows it and its row is there. -/
structure Editable (g : Grid) (row : Nat) (column : String) (c : Column) (old : Json) : Prop where
  column_eq : g.column? column = some c
  editable : c.editable = true
  value_eq : g.value? row column = some old

/-- An editable column is found among the editable ones. -/
theorem Editable.filter_eq {c : Column} (h : g.Editable row column c old) :
    (g.column? column).filter Column.editable = some c := by
  rw [h.column_eq, Option.filter_some, if_pos h.editable]

end Grid

namespace Widget

open Grid (numberedFrom)

variable {w : Widget} {g : Grid} {input : Input} {c : Column} {row : Nat}
  {column : String} {old typed value : Json} {columns : List Column} {rows : List Json.Members}

/-! ## What happens to a grid -/

/-- The input is refused, or is the edit of a cell that keeps its value. -/
inductive Declines (w : Widget) : Input → Prop where
  | refused {input : Input} {e : InteractionError} (error_eq : w.interpret input = .error e) :
      w.Declines input
  | kept {g : Grid} {row : Nat} {column : String} {c : Column} {old typed : Json}
      (state_eq : w.state = .dataGrid g) (editable : g.Editable row column c old)
      (verdict : CellVerdict.judge c old typed = .unchanged ∨
        CellVerdict.judge c old typed = .revert) : w.Declines (.editCell row column typed)

/-- All that an occurrence can do to a grid. -/
inductive Undergoes (w : Widget) (g : Grid) : Occurrence → Prop where
  /-- Nothing but the height changes, and nothing is reported. -/
  | kept {o : Occurrence} (height : Option String)
      (state_eq : (w.undergo o).state = .dataGrid { g with height := height })
      (reports_eq : w.reports o = []) : w.Undergoes g o
  /-- An accepted edit is written, and reported as it is written. -/
  | edited {row : Nat} {column : String} {typed value : Json} {c : Column} {old : Json}
      (editable : g.Editable row column c old)
      (verdict : CellVerdict.judge c old typed = .accept value)
      (state_eq : (w.undergo (.input (.editCell row column typed))).state =
        .dataGrid (g.setCell row column value))
      (reports_eq : w.reports (.input (.editCell row column typed)) = [⟨row, column, value⟩]) :
      w.Undergoes g (.input (.editCell row column typed))

/-- An input that is taken has its effect and its message. -/
theorem undergo_of_ok {w' : Widget} {message : Option Message}
    (h : w.interpret input = .ok (w', message)) :
    w.undergo (.input input) = w' ∧ w.emits (.input input) = message := by
  simp [undergo, emits, h]

/-- An input that is refused has neither. -/
theorem undergo_of_error {e : InteractionError} (h : w.interpret input = .error e) :
    w.undergo (.input input) = w ∧ w.emits (.input input) = none := by
  simp [undergo, emits, h]

/-- An accepted edit is written, and is the message. -/
theorem interpret_editCell_accept (hstate : w.state = .dataGrid g)
    (hcell : g.Editable row column c old) (hverdict : CellVerdict.judge c old typed = .accept value) :
    w.interpret (.editCell row column typed) =
      .ok (w.withState (.dataGrid (g.setCell row column value)),
        some (.cellEdited w.key w.widgetId w.fragmentId row column value)) := by
  simp only [interpret, hstate, editCell, hcell.filter_eq, hcell.value_eq, hverdict]

/-- An edit that is dropped or taken back changes nothing. -/
theorem interpret_editCell_keep (hstate : w.state = .dataGrid g)
    (hcell : g.Editable row column c old)
    (hverdict : CellVerdict.judge c old typed = .unchanged ∨
      CellVerdict.judge c old typed = .revert) :
    w.interpret (.editCell row column typed) = .ok (w, none) := by
  simp only [interpret, hstate, editCell, hcell.filter_eq, hcell.value_eq]
  rcases hverdict with hverdict | hverdict
  · rw [hverdict]
  · rw [hverdict]

/-- An edit of a cell that may not be edited is refused. -/
theorem interpret_editCell_refuse (typed : Json) (hstate : w.state = .dataGrid g)
    (h : ∀ c old, ¬ g.Editable row column c old) :
    ∃ e, w.interpret (.editCell row column typed) = .error e := by
  simp only [interpret, hstate, editCell]
  cases hfilter : (g.column? column).filter Column.editable with
  | none => exact ⟨_, rfl⟩
  | some c =>
    obtain ⟨hcolumn, heditable⟩ := Option.filter_eq_some_iff.mp hfilter
    cases hvalue : g.value? row column with
    | none => exact ⟨_, rfl⟩
    | some old => exact absurd ⟨hcolumn, heditable, hvalue⟩ (h c old)

/-- What is refused leaves the grid as it is. -/
theorem Undergoes.of_error (hstate : w.state = .dataGrid g)
    (h : ∃ e, w.interpret input = .error e) : w.Undergoes g (.input input) := by
  obtain ⟨e, he⟩ := h
  obtain ⟨hw, hemits⟩ := undergo_of_error he
  exact .kept g.height (by rw [hw, hstate]) (by rw [reports, hemits]; rfl)

/-- What is taken without a message leaves the grid as it is, if it is the same grid. -/
theorem Undergoes.of_silent {w' : Widget} (h : w.interpret input = .ok (w', none))
    (hstate : w'.state = .dataGrid g) : w.Undergoes g (.input input) := by
  obtain ⟨hw, hemits⟩ := undergo_of_ok h
  exact .kept g.height (by rw [hw, hstate]) (by rw [reports, hemits]; rfl)

/-- Focus, caret and scroll offset are not the grid's. -/
theorem Undergoes.of_touched (touched : LocalState) (hstate : w.state = .dataGrid g)
    (h : w.interpret input = .ok ({ w with touched := touched }, none)) :
    w.Undergoes g (.input input) :=
  .of_silent h hstate

/-- The edit of a cell is refused, dropped, taken back or accepted. -/
theorem undergoes_editCell (hstate : w.state = .dataGrid g) (row : Nat) (column : String)
    (typed : Json) : w.Undergoes g (.input (.editCell row column typed)) := by
  by_cases hthere : ∃ c old, g.Editable row column c old
  · obtain ⟨c, old, hcell⟩ := hthere
    cases hverdict : CellVerdict.judge c old typed with
    | unchanged =>
      exact .of_silent (interpret_editCell_keep hstate hcell (Or.inl hverdict)) hstate
    | revert =>
      exact .of_silent (interpret_editCell_keep hstate hcell (Or.inr hverdict)) hstate
    | accept value =>
      obtain ⟨hw, hemits⟩ := undergo_of_ok (interpret_editCell_accept hstate hcell hverdict)
      exact .edited hcell hverdict (by rw [hw]; rfl) (by rw [reports, hemits]; rfl)
  · refine .of_error hstate (interpret_editCell_refuse typed hstate ?_)
    exact fun c old hcell => hthere ⟨c, old, hcell⟩

/-- Whatever happens to a grid, it undergoes one of the two. -/
theorem undergoes (hstate : w.state = .dataGrid g) (o : Occurrence) : w.Undergoes g o := by
  cases o with
  | described fragmentId head spec =>
    have hupdate : ∃ height, (w.undergo (.described fragmentId head spec)).state =
        .dataGrid { g with height := height } := by
      simp only [undergo, update, hstate]
      -- a description of the same kind brings another height, and one of another kind is refused
      cases spec with
      | dataGrid _ _ height => exact ⟨height, rfl⟩
      | button | textField | select | colorField | image | codeEditor | fileUploader =>
        exact ⟨g.height, hstate⟩
    obtain ⟨height, hheight⟩ := hupdate
    exact .kept height hheight rfl
  | input input =>
    cases input with
    | editCell row column typed => exact undergoes_editCell hstate row column typed
    | focus =>
      exact .of_touched { w.touched with focused := true } hstate (by simp only [interpret])
    | blur =>
      exact .of_touched { w.touched with focused := false } hstate (by simp only [interpret])
    | scroll offset =>
      exact .of_touched { w.touched with scrollTop := offset } hstate (by simp only [interpret])
    | click | commitText | selectValue | pickColor | editCode | toggle | choose | selectFiles =>
      refine .of_error hstate ?_
      simp only [interpret, hstate]
      exact ⟨_, rfl⟩

/-- A declined input does nothing, and nothing is said of it. -/
theorem Declines.inert (h : w.Declines input) :
    w.undergo (.input input) = w ∧ w.emits (.input input) = none := by
  cases h with
  | refused herror => exact undergo_of_error herror
  | kept hstate hcell hverdict =>
    exact undergo_of_ok (interpret_editCell_keep hstate hcell hverdict)

/-! ## Runs -/

/-- The widget is a grid with these columns and, numbered, these rows. -/
def Shows (w : Widget) (columns : List Column) (rows : List Json.Members) : Prop :=
  ∃ height, w.state = .dataGrid ⟨columns, numberedFrom 0 rows, height⟩

/-- A change is reported for a row that is there, in a column that may be edited.  In a number column
the value is a number, or null if the column need not be filled; a number that is not finite was
given as it is. -/
structure Licenses (columns : List Column) (count : Nat) (run : List Occurrence)
    (change : CellChange) : Prop where
  row_pos : 1 ≤ change.row
  row_le : change.row ≤ count
  column : ∃ c, columns.find? (fun c => c.name = change.column) = some c ∧ c.editable = true ∧
    (c.type = .number → (∃ i, change.value = .int i) ∨
      (∃ x, change.value = .float x ∧ (x.isFinite = true ∨
        .input (.editCell change.row change.column (.float x)) ∈ run)) ∨
      (change.value = .null ∧ c.required = false))

/-- A change that was licensed by some occurrences is licensed by more. -/
theorem Licenses.mono {count : Nat} {run run' : List Occurrence} {change : CellChange}
    (h : Licenses columns count run change) (hrun : run ⊆ run') :
    Licenses columns count run' change := by
  obtain ⟨hpos, hle, c, hcolumn, heditable, hvalue⟩ := h
  refine ⟨hpos, hle, c, hcolumn, heditable, fun htype => ?_⟩
  rcases hvalue htype with hint | ⟨x, hfloat, hfinite | htyped⟩ | hnull
  · exact Or.inl hint
  · exact Or.inr (Or.inl ⟨x, hfloat, Or.inl hfinite⟩)
  · exact Or.inr (Or.inl ⟨x, hfloat, Or.inr (hrun htyped)⟩)
  · exact Or.inr (Or.inr hnull)

/-- An accepted edit is licensed. -/
theorem licenses_edited {count : Nat} {height : Option String} {rows : List GridRow}
    (hcell : Grid.Editable ⟨columns, rows, height⟩ row column c old)
    (hverdict : CellVerdict.judge c old typed = .accept value)
    (hrow : row ∈ List.range' 1 count) :
    Licenses columns count [.input (.editCell row column typed)] ⟨row, column, value⟩ := by
  obtain ⟨hpos, hlt⟩ := List.mem_range'_1.mp hrow
  refine ⟨hpos, by show row ≤ _; omega, c, hcell.column_eq, hcell.editable, fun htype => ?_⟩
  obtain ⟨-, haccepted⟩ := CellVerdict.judge_eq_accept_iff.mp hverdict
  rcases haccepted.of_number htype with hint | ⟨x, rfl, rfl | hfinite⟩ | hnull
  · exact Or.inl hint
  · exact Or.inr (Or.inl ⟨x, rfl, Or.inr List.mem_cons_self⟩)
  · exact Or.inr (Or.inl ⟨x, rfl, Or.inl hfinite⟩)
  · exact Or.inr (Or.inr hnull)

/-- An occurrence changes the rows as it reports, and reports nothing without licence. -/
theorem Shows.undergo (h : w.Shows columns rows) (o : Occurrence) :
    (w.undergo o).Shows columns ((w.reports o).foldl CellChange.apply rows) ∧
      ∀ change ∈ w.reports o, Licenses columns rows.length [o] change := by
  obtain ⟨height, hstate⟩ := h
  cases undergoes hstate o with
  | kept height' hkept hreports =>
    rw [hreports]
    exact ⟨⟨height', hkept⟩, by simp⟩
  | @edited row column typed value c old hcell hverdict hwritten hreports =>
    -- the cell had a value, so its row is one of those numbered
    have hrow : row ∈ List.range' 1 rows.length := by
      rw [← Grid.map_index_numberedFrom]
      exact Grid.index_mem_of_value? hcell.value_eq
    rw [hreports]
    constructor
    · refine ⟨height, ?_⟩
      rw [hwritten, Grid.setCell, Grid.setRow_eq_apply (List.mem_range'_1.mp hrow).1]
      rfl
    · intro change hchange
      obtain rfl := List.mem_singleton.mp hchange
      exact licenses_edited hcell hverdict hrow

/-- No change adds a row or takes one away. -/
theorem length_foldl_apply (changes : List CellChange) (rows : List Json.Members) :
    (changes.foldl CellChange.apply rows).length = rows.length := by
  induction changes generalizing rows with
  | nil => rfl
  | cons change rest ih =>
    rw [List.foldl_cons, ih]
    exact List.length_modify _ _ _

/-- What one occurrence keeps in step, a run keeps in step. -/
theorem Shows.undergoAll (h : w.Shows columns rows) (run : List Occurrence) :
    (w.undergoAll run).Shows columns ((w.reportsBy run).foldl CellChange.apply rows) ∧
      ∀ change ∈ w.reportsBy run, Licenses columns rows.length run change := by
  induction run generalizing w rows with
  | nil => exact ⟨h, by simp [reportsBy]⟩
  | cons o rest ih =>
    obtain ⟨hshows, hlicensed⟩ := h.undergo o
    obtain ⟨hshows', hlicensed'⟩ := ih hshows
    rw [length_foldl_apply] at hlicensed'
    constructor
    · rw [reportsBy, List.foldl_append]
      exact hshows'
    · intro change hchange
      rcases List.mem_append.mp hchange with hfirst | hlater
      · exact (hlicensed change hfirst).mono (by simp)
      · exact (hlicensed' change hlater).mono (by simp)

/-- A run is told by what it reports. -/
structure Tracks (w : Widget) (columns : List Column) (rows : List Json.Members)
    (run : List Occurrence) : Prop where
  /-- The rows are the described ones with the reported changes made in them, in order. -/
  shows : (w.undergoAll run).Shows columns ((w.reportsBy run).foldl CellChange.apply rows)
  /-- The rows stay numbered as they were. -/
  indices_eq : ∃ g, (w.undergoAll run).state = .dataGrid g ∧
    g.rows.map GridRow.index = List.range' 1 rows.length
  /-- A declined input does nothing, and nothing is said of it. -/
  declined : ∀ input, (w.undergoAll run).Declines input →
    (w.undergoAll run).undergo (.input input) = w.undergoAll run ∧
      (w.undergoAll run).emits (.input input) = none
  licensed : ∀ change ∈ w.reportsBy run, Licenses columns rows.length run change

/-- Whatever a grid undergoes after it was made, its rows are those it was made with and the changes
that it reported. -/
theorem grid_tracks (key fragmentId : String) (head : NodeHead) (columns : List Column)
    (rows : List Json.Members) (height : Option String) (run : List Occurrence) :
    (make key fragmentId head (.dataGrid columns rows height)).Tracks columns rows run := by
  have hmade : (make key fragmentId head (.dataGrid columns rows height)).Shows columns rows :=
    ⟨height, rfl⟩
  obtain ⟨hshows, hlicensed⟩ := hmade.undergoAll run
  refine ⟨hshows, ?_, fun input => Declines.inert, hlicensed⟩
  obtain ⟨height', hstate⟩ := hshows
  refine ⟨_, hstate, ?_⟩
  rw [Grid.map_index_numberedFrom, length_foldl_apply]

end Widget

end RemoteUi
