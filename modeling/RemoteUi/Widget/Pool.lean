/-
# RemoteUi.Widget.Pool — all live widgets.

The pool numbers widgets as they are made and never reuses a number, so a handle says which widget
it is for good.  Its index says which widget is live under an identity; a widget that is not in
the index is shown, but cannot be found.
-/
import RemoteUi.Table
import RemoteUi.Widget.Basic

namespace RemoteUi

/-- All widgets made, and which of them are live under which identity. -/
structure WidgetPool where
  widgets : Array Widget
  index : Table Nat

namespace WidgetPool

/-- The pool without widgets. -/
def empty : WidgetPool := ⟨#[], .empty⟩

/-- The widget with a handle. -/
def get? (p : WidgetPool) (h : Nat) : Option Widget :=
  p.widgets[h]?

/-- The handle of the widget that is live under an identity. -/
def lookup (p : WidgetPool) (key : String) : Option Nat :=
  p.index.get? key

/-- How many widgets are live. -/
def liveCount (p : WidgetPool) : Nat :=
  p.index.size

/-- Makes a widget that cannot be found. -/
def add (p : WidgetPool) (w : Widget) : WidgetPool × Nat :=
  ({ p with widgets := p.widgets.push w }, p.widgets.size)

/-- Makes a widget live under its identity, in the place of another. -/
def register (p : WidgetPool) (w : Widget) : WidgetPool × Nat :=
  (⟨p.widgets.push w, p.index.insert w.key p.widgets.size⟩, p.widgets.size)

/-- Changes a widget. -/
def modify (p : WidgetPool) (h : Nat) (f : Widget → Widget) : WidgetPool :=
  { p with widgets := p.widgets.modify h f }

/-- Puts a widget in the place of the one with a handle. -/
def set (p : WidgetPool) (h : Nat) (w : Widget) : WidgetPool :=
  p.modify h fun _ => w

/-- Sets the focus flag of a widget. -/
def setFocused (p : WidgetPool) (h : Nat) (focused : Bool) : WidgetPool :=
  p.modify h fun w => { w with touched := { w.touched with focused := focused } }

/-- Takes identities out of the index. -/
def retire (p : WidgetPool) (keys : List String) : WidgetPool :=
  { p with index := p.index.filter fun k _ => !keys.contains k }

/-- The identity of the widget with a handle; empty if it has none. -/
def key (p : WidgetPool) (h : Nat) : String :=
  ((p.get? h).map Widget.key).getD ""

/-! ## What each operation does to the views -/

variable (p : WidgetPool) (h h' : Nat) (w : Widget) (k : String)

@[simp]
theorem lookup_empty : empty.lookup k = none := rfl

@[simp]
theorem add_handle : (p.add w).2 = p.widgets.size := rfl

@[simp]
theorem lookup_add : (p.add w).1.lookup k = p.lookup k := rfl

@[simp]
theorem size_add : (p.add w).1.widgets.size = p.widgets.size + 1 :=
  Array.size_push w

theorem get?_add : (p.add w).1.get? h = if h = p.widgets.size then some w else p.get? h :=
  Array.getElem?_push

@[simp]
theorem register_handle : (p.register w).2 = p.widgets.size := rfl

@[simp]
theorem lookup_register :
    (p.register w).1.lookup k = if k = w.key then some p.widgets.size else p.lookup k :=
  Table.get?_insert p.index w.key k p.widgets.size

@[simp]
theorem size_register : (p.register w).1.widgets.size = p.widgets.size + 1 :=
  Array.size_push w

theorem get?_register :
    (p.register w).1.get? h = if h = p.widgets.size then some w else p.get? h :=
  Array.getElem?_push

@[simp]
theorem lookup_modify (f : Widget → Widget) : (p.modify h f).lookup k = p.lookup k := rfl

@[simp]
theorem size_modify (f : Widget → Widget) : (p.modify h f).widgets.size = p.widgets.size :=
  Array.size_modify

theorem get?_modify (f : Widget → Widget) :
    (p.modify h f).get? h' = if h = h' then (p.get? h').map f else p.get? h' :=
  Array.getElem?_modify

@[simp]
theorem lookup_set : (p.set h w).lookup k = p.lookup k := rfl

@[simp]
theorem size_set : (p.set h w).widgets.size = p.widgets.size :=
  p.size_modify h fun _ => w

@[simp]
theorem lookup_setFocused (focused : Bool) : (p.setFocused h focused).lookup k = p.lookup k := rfl

@[simp]
theorem size_setFocused (focused : Bool) :
    (p.setFocused h focused).widgets.size = p.widgets.size :=
  p.size_modify h _

@[simp]
theorem get?_retire (keys : List String) : (p.retire keys).get? h = p.get? h := rfl

@[simp]
theorem size_retire (keys : List String) : (p.retire keys).widgets.size = p.widgets.size := rfl

@[simp]
theorem lookup_retire (keys : List String) :
    (p.retire keys).lookup k = if k ∈ keys then none else p.lookup k := by
  by_cases hk : k ∈ keys <;> cases hl : p.index.get? k <;> simp [lookup, retire, hk, hl]

theorem get?_eq_none_iff {p : WidgetPool} {h : Nat} : p.get? h = none ↔ p.widgets.size ≤ h :=
  Array.getElem?_eq_none_iff

theorem lt_size_of_get? {p : WidgetPool} {h : Nat} {w : Widget} (hw : p.get? h = some w) :
    h < p.widgets.size :=
  (Array.getElem?_eq_some_iff.mp hw).1

theorem key_of_get? {p : WidgetPool} {h : Nat} {w : Widget} (hw : p.get? h = some w) :
    p.key h = w.key := by
  simp [key, hw]

end WidgetPool

end RemoteUi
