/-
# RemoteUi.Screen.Surface — what the user sees.

The surface is one rendered tree, if anything has been shown, and the identity of the widget that
has the focus.  Operations that touch the widgets themselves go with the pool.
-/
import RemoteUi.Screen.Rendered
import RemoteUi.Widget.Pool

namespace RemoteUi

/-- The opacity of a fragment while a request that concerns it is under way. -/
def pendingOpacity : Float32 := 0.5

/-- What the user sees. -/
structure Surface where
  root : Option Panel
  focused : Option String

namespace Surface

/-- Nothing has been shown. -/
def empty : Surface := ⟨none, none⟩

/-- The first container that is the root of a fragment. -/
def fragment? (s : Surface) (id : String) : Option Panel :=
  s.root.bind fun r => r.find? (Box.isFragment id)

/-- Changes the first container that satisfies `p`; without one, nothing happens. -/
def edit (s : Surface) (p : Box → Bool) (f : Panel → Panel) : Surface :=
  match s.root.bind fun r => r.edit? p f with
  | some root => { s with root := some root }
  | none => s

/-- Sets the opacity of a fragment. -/
def fade (s : Surface) (id : String) (opacity : Float32) : Surface :=
  s.edit (Box.isFragment id) fun p => { p with box := { p.box with opacity := opacity } }

/-- Sets the visibility of a fragment. -/
def setVisible (s : Surface) (id : String) (visible : Bool) : Surface :=
  s.edit (Box.isFragment id) fun p => { p with box := { p.box with visible := visible } }

/-- Scrolls the container with an id. -/
def scrollTo (s : Surface) (id : String) (offset : Nat) : Surface :=
  s.edit (Box.hasId id) fun p => { p with box := { p.box with scrollTop := offset } }

/-- A container with the id is shown. -/
def hasContainer (s : Surface) (id : String) : Bool :=
  (s.root.bind fun r => r.find? (Box.hasId id)).isSome

/-- The handles of all widgets shown, in document order. -/
def handles (s : Surface) : List Handle :=
  (s.root.map Panel.handles).getD []

/-- The first widget shown with an identity. -/
def findWidget (s : Surface) (pool : WidgetPool) (key : String) : Option Handle :=
  s.handles.find? fun h => (pool.get? h).any fun w => w.key = key

/-- Sets the focus flag of the first widget shown with an identity, if there is one. -/
def flag (s : Surface) (pool : WidgetPool) (key : String) (focused : Bool) : WidgetPool :=
  match s.findWidget pool key with
  | some h => pool.setFocused h focused
  | none => pool

/-- Takes the focus from the widget that has it. -/
def blur (s : Surface) (pool : WidgetPool) : Surface × WidgetPool :=
  match s.focused with
  | some previous => ({ s with focused := none }, s.flag pool previous false)
  | none => (s, pool)

/-- Moves the focus to a widget, if it is shown; otherwise nothing has the focus. -/
def focus (s : Surface) (pool : WidgetPool) (key : String) : Surface × WidgetPool :=
  let (s, pool) := s.blur pool
  match s.findWidget pool key with
  | some h => ({ s with focused := some key }, pool.setFocused h true)
  | none => (s, pool)

/-- Puts a container in the place of a fragment's root, or at the root of an empty surface. -/
def replace (s : Surface) (id : String) (incoming : Panel) : Surface :=
  match s.root with
  | none => { s with root := some incoming }
  | some _ => s.edit (Box.isFragment id) fun _ => incoming

end Surface

end RemoteUi
