/-
# RemoteUi.Screen.Rendered — trees as they are shown.

A rendered tree shows live widgets by their handles, so two places that show the same widget hold
the same number, and groups by their keys.  Searches go through a tree in document order: a
container before what it holds, and what it holds from first to last.
-/
import RemoteUi.Group.Basic
import RemoteUi.Tree.Node

namespace RemoteUi

/-- The number of a live widget. -/
abbrev Handle := Nat

/-- The presentation of a container. -/
structure Box where
  id : Option String
  /-- Set on the roots of fragments. -/
  fragmentId : Option String
  style : Json.Members
  attributes : Json.Members
  opacity : Float32
  visible : Bool
  scrollTop : Nat

/-- A node as it is shown. -/
inductive Rendered where
  | markup (tag : String) (content : Markup) (style : Json.Members)
  | container (box : Box) (children : List Rendered)
  | widget (handle : Handle)
  | group (key : String) (kind : GroupKind)

/-- A container as it is shown. -/
structure Panel where
  box : Box
  children : List Rendered

/-- A container as a node. -/
def Panel.node (p : Panel) : Rendered :=
  .container p.box p.children

/-- The container of a node. -/
def Rendered.panel? : Rendered → Option Panel
  | .container box children => some ⟨box, children⟩
  | _ => none

/-! ## Views -/

mutual
/-- A node and all nodes below it, in document order. -/
def Rendered.nodes : Rendered → List Rendered
  | .container box children => .container box children :: Rendered.nodesOf children
  | r => [r]

/-- The nodes of a list of trees, in document order. -/
def Rendered.nodesOf : List Rendered → List Rendered
  | [] => []
  | r :: rest => r.nodes ++ Rendered.nodesOf rest
end

/-- The handle of a widget. -/
def Rendered.handle? : Rendered → Option Handle
  | .widget h => some h
  | _ => none

/-- The key of a group. -/
def Rendered.groupKey? : Rendered → Option String
  | .group key _ => some key
  | _ => none

/-- The presentation of a container. -/
def Rendered.box? : Rendered → Option Box
  | .container box _ => some box
  | _ => none

namespace Panel

/-- The handles of the widgets shown, in document order. -/
def handles (p : Panel) : List Handle :=
  (Rendered.nodesOf p.children).filterMap Rendered.handle?

/-- The keys of the groups shown, in document order. -/
def groupKeys (p : Panel) : List String :=
  (Rendered.nodesOf p.children).filterMap Rendered.groupKey?

/-- The presentations of the containers, this one first, in document order. -/
def boxes (p : Panel) : List Box :=
  p.box :: (Rendered.nodesOf p.children).filterMap Rendered.box?

end Panel

/-! ## Finding and changing a container -/

mutual
/-- The first container whose presentation satisfies `p`. -/
def Rendered.find? (p : Box → Bool) : Rendered → Option Panel
  | .container box children =>
    if p box then some ⟨box, children⟩ else Rendered.findIn? p children
  | _ => none

/-- The first container in a list of trees whose presentation satisfies `p`. -/
def Rendered.findIn? (p : Box → Bool) : List Rendered → Option Panel
  | [] => none
  | r :: rest =>
    match r.find? p with
    | some panel => some panel
    | none => Rendered.findIn? p rest
end

mutual
/-- The tree with the first container whose presentation satisfies `p` changed; `none` if there
is no such container. -/
def Rendered.edit? (p : Box → Bool) (f : Panel → Panel) : Rendered → Option Rendered
  | .container box children =>
    if p box then some (f ⟨box, children⟩).node
    else (Rendered.editIn? p f children).map (.container box ·)
  | _ => none

/-- `edit?` in a list of trees. -/
def Rendered.editIn? (p : Box → Bool) (f : Panel → Panel) : List Rendered → Option (List Rendered)
  | [] => none
  | r :: rest =>
    match r.edit? p f with
    | some r => some (r :: rest)
    | none => (Rendered.editIn? p f rest).map (r :: ·)
end

/-- The presentation is that of the root of a fragment. -/
def Box.isFragment (fragmentId : String) (b : Box) : Bool :=
  b.fragmentId == some fragmentId

/-- The presentation is that of the container with an id. -/
def Box.hasId (id : String) (b : Box) : Bool :=
  b.id == some id

namespace Panel

/-- The first container that satisfies `p`, this one included. -/
def find? (panel : Panel) (p : Box → Bool) : Option Panel :=
  panel.node.find? p

/-- The container with the first container that satisfies `p` changed. -/
def edit? (panel : Panel) (p : Box → Bool) (f : Panel → Panel) : Option Panel :=
  (panel.node.edit? p f).bind Rendered.panel?

end Panel

/-! ## Scroll offsets -/

/-- The scroll offsets of the containers with an id.  Of two with one id, the later counts. -/
def Panel.scrollOffsets (p : Panel) : Table Nat :=
  p.boxes.foldl (fun t b =>
    match b.id with
    | some id => t.insert id b.scrollTop
    | none => t) .empty

/-- The presentation with the offset that is kept for its id. -/
def Box.restoreScroll (offsets : Table Nat) (b : Box) : Box :=
  match b.id.bind offsets.get? with
  | some offset => { b with scrollTop := offset }
  | none => b

mutual
/-- The tree with every container's offset restored. -/
def Rendered.restoreScroll (offsets : Table Nat) : Rendered → Rendered
  | .container box children =>
    .container (box.restoreScroll offsets) (Rendered.restoreScrollIn offsets children)
  | r => r

/-- `restoreScroll` in a list of trees. -/
def Rendered.restoreScrollIn (offsets : Table Nat) : List Rendered → List Rendered
  | [] => []
  | r :: rest => r.restoreScroll offsets :: Rendered.restoreScrollIn offsets rest
end

/-- The container with every offset restored, its own included. -/
def Panel.restoreScroll (offsets : Table Nat) (p : Panel) : Panel :=
  ⟨p.box.restoreScroll offsets, Rendered.restoreScrollIn offsets p.children⟩

end RemoteUi
