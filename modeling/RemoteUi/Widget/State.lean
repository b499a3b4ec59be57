/-
# RemoteUi.Widget.State — what a live widget shows.

The state of a widget follows the server's description, except for what belongs to the user once
the widget exists: the cells of a grid, the text of a code editor and the selection of a file
uploader.  `ofSpec` makes the first state and `update` follows a later description of the same
kind.
-/
import RemoteUi.Tree.Node
import RemoteUi.Upload.File

namespace RemoteUi

/-- A row of a grid. -/
structure GridRow where
  /-- The position of the row, from one, in the description that made the grid. -/
  index : Nat
  cells : Json.Members

/-- A grid. -/
structure Grid where
  columns : List Column
  rows : List GridRow
  height : Option String

/-- A file uploader. -/
structure Uploader where
  multiple : Bool
  accept : List String
  selection : List UploadedFile
  summary : Option String

/-- What a live widget shows. -/
inductive WidgetState where
  | button (button : Button)
  | textField (value placeholder : String)
  | select (select : Select)
  | colorField (value : String)
  | image (image : Image)
  | dataGrid (grid : Grid)
  | codeEditor (text : String) (lineNumbers : Bool)
  | fileUploader (uploader : Uploader)

/-- What exists on the client only. -/
structure LocalState where
  focused : Bool
  caret : Option Nat
  scrollTop : Nat
  deriving DecidableEq

/-- A widget that the user has not touched. -/
def LocalState.untouched : LocalState := ⟨false, none, 0⟩

/-! ## Grids -/

namespace Grid

/-- A grid as it is first described. -/
def make (columns : List Column) (rows : List Json.Members) (height : Option String) : Grid :=
  ⟨columns, rows.zipIdx.map fun r => ⟨r.2 + 1, r.1⟩, height⟩

/-- The column with a name. -/
def column? (g : Grid) (name : String) : Option Column :=
  g.columns.find? fun c => c.name = name

/-- The row with an index. -/
def row? (g : Grid) (index : Nat) : Option GridRow :=
  g.rows.find? fun r => r.index = index

/-- A cell that has been given a value. -/
def cell? (g : Grid) (index : Nat) (column : String) : Option Json :=
  (g.row? index).bind fun r => Json.Members.find? column r.cells

/-- The value of a cell in an existing row; one that was given none is null. -/
def value? (g : Grid) (index : Nat) (column : String) : Option Json :=
  (g.row? index).map fun r => (Json.Members.find? column r.cells).getD .null

/-- Changes the first row with an index. -/
def setRow (index : Nat) (f : Json.Members → Json.Members) : List GridRow → List GridRow
  | [] => []
  | r :: rest =>
    if r.index = index then { r with cells := f r.cells } :: rest else r :: setRow index f rest

/-- Gives a cell a value; without the row, nothing happens. -/
def setCell (g : Grid) (index : Nat) (column : String) (v : Json) : Grid :=
  { g with rows := setRow index (Json.Members.set column v) g.rows }

end Grid

/-! ## States -/

/-- The colour of a colour field that was given none. -/
def defaultColor : String := "#999999"

namespace WidgetState

/-- The kind of a state. -/
def kind : WidgetState → NodeKind
  | .button _ => .button
  | .textField _ _ => .textField
  | .select _ => .select
  | .colorField _ => .colorField
  | .image _ => .image
  | .dataGrid _ => .dataGrid
  | .codeEditor _ _ => .codeEditor
  | .fileUploader _ => .fileUploader

/-- The state of a widget that is first described. -/
def ofSpec : WidgetSpec → WidgetState
  | .button b => .button b
  | .textField value placeholder => .textField (value.getD "") placeholder
  | .select s => .select s
  | .colorField value => .colorField (value.getD defaultColor)
  | .image i => .image i
  | .dataGrid columns rows height => .dataGrid (Grid.make columns rows height)
  | .codeEditor text lineNumbers => .codeEditor text lineNumbers
  | .fileUploader multiple accept => .fileUploader ⟨multiple, accept, [], none⟩

/-- Follows a later description; one of another kind is refused. -/
def update : WidgetState → WidgetSpec → Option WidgetState
  | .button _, .button b => some (.button b)
  | .textField _ _, .textField value placeholder => some (.textField (value.getD "") placeholder)
  | .select _, .select s => some (.select s)
  | .colorField _, .colorField value => some (.colorField (value.getD defaultColor))
  | .image _, .image i => some (.image i)
  | .dataGrid g, .dataGrid _ _ height => some (.dataGrid { g with height := height })
  | .codeEditor text _, .codeEditor _ lineNumbers => some (.codeEditor text lineNumbers)
  | .fileUploader u, .fileUploader multiple accept =>
    some (.fileUploader { u with multiple := multiple, accept := accept })
  | _, _ => none

/-- The caret after an update: inside a text that the server changed. -/
def clampCaret (before after : WidgetState) (caret : Option Nat) : Option Nat :=
  match before, after with
  | .textField old _, .textField new _ =>
    if old = new then caret else caret.map fun c => min c new.length
  | _, _ => caret

end WidgetState

end RemoteUi
