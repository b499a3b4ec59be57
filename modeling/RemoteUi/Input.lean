/-
# RemoteUi.Input — what the user does, and what it means.

An input is addressed to one widget or group.  A widget answers it with a message or silence, or
does not accept it.
-/
import RemoteUi.Tree.Node
import RemoteUi.Upload.File

namespace RemoteUi

/-- What the user does to a widget or a member of a group. -/
inductive Input where
  | focus
  | blur
  | click
  | commitText (text : String)
  | selectValue (value : Json)
  | pickColor (color : String)
  | editCode (text : String)
  | toggle (value : String)
  | choose (value : String)
  | editCell (row : Nat) (column : String) (value : Json)
  | scroll (offset : Nat)
  | selectFiles (files : List SelectedFile)

/-- What messages call an input. -/
def Input.name : Input → String
  | .focus => "focus"
  | .blur => "blur"
  | .click => "click"
  | .commitText _ => "text"
  | .selectValue _ => "selection"
  | .pickColor _ => "color"
  | .editCode _ => "code edit"
  | .toggle _ => "checkbox toggle"
  | .choose _ => "radio selection"
  | .editCell _ _ _ => "cell edit"
  | .scroll _ => "scroll"
  | .selectFiles _ => "file selection"

/-- What a widget has to say about an input. -/
inductive Message where
  | clicked (widgetId fragmentId : String)
  | valueChanged (widgetId fragmentId : String) (old : Option Json) (new : Json)
  /-- Edits of one grid are gathered by its key. -/
  | cellEdited (key widgetId fragmentId : String) (row : Nat) (column : String) (value : Json)
  | downloadRequested (widgetId fragmentId fileName : String)
  | filesSelected (key widgetId fragmentId : String) (multiple : Bool) (files : List SelectedFile)

/-- Why an input could not be delivered. -/
inductive InteractionError where
  | unknownWidget (id : String)
  | unsupported (key : String) (kind : NodeKind) (input : String)
  | notEditable (key column : String)
  | unknownRow (key : String) (row : Nat)
  | notConnected
  deriving DecidableEq

/-- The wording of an input that could not be delivered. -/
def InteractionError.message : InteractionError → String
  | .unknownWidget id => "no live widget or group with id '" ++ id ++ "'"
  | .unsupported key kind input =>
    "widget '" ++ key ++ "' of kind " ++ kind.name ++ " does not accept " ++ input
  | .notEditable key column => "column '" ++ column ++ "' of grid '" ++ key ++ "' is not editable"
  | .unknownRow key row => "grid '" ++ key ++ "' has no row " ++ toString row
  | .notConnected => "session is not connected"

end RemoteUi
