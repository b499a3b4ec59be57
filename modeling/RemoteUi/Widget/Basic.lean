/-
# RemoteUi.Widget.Basic — live widgets.

A live widget outlives the tree that made it: as long as later trees describe a widget of the same
identity and kind, it is updated in place, and what the user did to it stays.
-/
import RemoteUi.Widget.State

namespace RemoteUi

/-- A live widget. -/
structure Widget where
  /-- The identity under which the widget is found; empty if it has none. -/
  key : String
  /-- The id that the server gave the widget, the only one it is told. -/
  serverId : Option String
  fragmentId : String
  containerId : Option String
  localId : Option String
  style : Json.Members
  touched : LocalState
  state : WidgetState
  /-- How often the widget was updated in place. -/
  updates : Nat

namespace Widget

/-- The id that the server is told; empty while it gave none. -/
def widgetId (w : Widget) : String :=
  w.serverId.getD ""

/-- The kind of a widget. -/
def kind (w : Widget) : NodeKind :=
  w.state.kind

/-- A new widget. -/
def make (key fragmentId : String) (head : NodeHead) (spec : WidgetSpec) : Widget where
  key := key
  serverId := head.id
  fragmentId := fragmentId
  containerId := head.containerId
  localId := head.localId
  style := head.style
  touched := .untouched
  state := .ofSpec spec
  updates := 0

/-- Updates a widget in place; a description of another kind is refused. -/
def update (w : Widget) (fragmentId : String) (head : NodeHead) (spec : WidgetSpec) :
    Option Widget :=
  (w.state.update spec).map fun state =>
    { w with
      serverId := head.id
      fragmentId := fragmentId
      containerId := head.containerId
      localId := head.localId
      style := head.style
      touched := { w.touched with caret := w.state.clampCaret state w.touched.caret }
      state := state
      updates := w.updates + 1 }

end Widget

end RemoteUi
