/-
# RemoteUi.Widget.Interpret — what an input does to a widget.

Focus and scrolling concern every widget; any other input is for one kind.  A refused input leaves
no trace, for the result is then an error and no widget.
-/
import RemoteUi.Input
import RemoteUi.Widget.Basic
import RemoteUi.Widget.CellEdit

namespace RemoteUi

/-- An empty text and an empty list select nothing. -/
def Json.selection : Json → Json
  | .str "" => .null
  | .arr [] => .null
  | j => j

namespace Widget

/-- The widget with another state. -/
def withState (w : Widget) (state : WidgetState) : Widget :=
  { w with state := state }

/-- The message that the widget's value is another. -/
def changed (w : Widget) (old : Option Json) (new : Json) : Message :=
  .valueChanged w.widgetId w.fragmentId old new

/-- Edits a cell of a grid. -/
def editCell (w : Widget) (g : Grid) (row : Nat) (column : String) (value : Json) :
    Except InteractionError (Widget × Option Message) :=
  match (g.column? column).filter Column.editable with
  | none => .error (.notEditable w.key column)
  | some c =>
    match g.value? row column with
    | none => .error (.unknownRow w.key row)
    | some old =>
      match CellVerdict.judge c old value with
      | .accept new =>
        .ok (w.withState (.dataGrid (g.setCell row column new)),
          some (.cellEdited w.key w.widgetId w.fragmentId row column new))
      | _ => .ok (w, none)

/-- Delivers an input: the widget afterwards, and what it has to say. -/
def interpret (w : Widget) (input : Input) : Except InteractionError (Widget × Option Message) :=
  match input, w.state with
  | .focus, _ => .ok ({ w with touched := { w.touched with focused := true } }, none)
  | .blur, _ => .ok ({ w with touched := { w.touched with focused := false } }, none)
  | .scroll offset, _ => .ok ({ w with touched := { w.touched with scrollTop := offset } }, none)
  | .click, .button b =>
    match b.downloadName with
    | some name => .ok (w, some (.downloadRequested w.widgetId w.fragmentId name))
    | none => .ok (w, some (.clicked w.widgetId w.fragmentId))
  | .commitText text, .textField _ placeholder =>
    let w' := { w.withState (.textField text placeholder) with
      touched := { w.touched with caret := some text.length } }
    .ok (w', some (w.changed none (if text = "" then .null else .str text)))
  | .selectValue value, .select s =>
    .ok (w.withState (.select { s with value := value }),
      some (w.changed (some s.value.selection) value.selection))
  | .pickColor color, .colorField _ =>
    .ok (w.withState (.colorField color), some (w.changed none (.str color)))
  | .editCode text, .codeEditor _ lineNumbers =>
    .ok (w.withState (.codeEditor text lineNumbers), some (w.changed none (.str text)))
  | .editCell row column value, .dataGrid g => w.editCell g row column value
  | .selectFiles files, .fileUploader u =>
    .ok (w, some (.filesSelected w.key w.widgetId w.fragmentId u.multiple files))
  | _, _ => .error (.unsupported w.key w.kind input.name)

end Widget

end RemoteUi
