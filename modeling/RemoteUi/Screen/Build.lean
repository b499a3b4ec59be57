/-
# RemoteUi.Screen.Build — rendering a tree off screen.

A node whose identity is live as a widget of the same kind gets that widget, updated in place;
any other widget is made anew.  Within one tree an identity counts once: a second widget with it is
shown but not live, a second group with it is dropped, and both are reported.  A widget without
identity lives only as long as it is shown; a group without identity is dropped.
-/
import RemoteUi.Screen.Rendered
import RemoteUi.Widget.Pool

namespace RemoteUi

/-- What a build has come to. -/
structure Build where
  pool : WidgetPool
  groups : Groups
  /-- The identities of the widgets met, in order. -/
  widgetIds : List String
  /-- The keys of the groups met, in order. -/
  groupKeys : List String
  reused : Nat
  constructed : Nat
  diagnostics : List Diagnostic

namespace Build

/-- The build before the first node. -/
def start (pool : WidgetPool) (groups : Groups) : Build :=
  ⟨pool, groups, [], [], 0, 0, []⟩

/-- Reports a problem. -/
def report (b : Build) (d : Diagnostic) : Build :=
  { b with diagnostics := b.diagnostics ++ [d] }

/-- Counts a widget or group as one that was there before, or as new. -/
def count (b : Build) (reused : Bool) : Build :=
  if reused then { b with reused := b.reused + 1 } else { b with constructed := b.constructed + 1 }

/-- Shows a new widget that is not live. -/
def loose (b : Build) (w : Widget) : Handle × Build :=
  let (pool, h) := b.pool.add w
  (h, { b with pool := pool }.count false)

/-- Shows a new widget that is live under its identity. -/
def fresh (b : Build) (w : Widget) : Handle × Build :=
  let (pool, h) := b.pool.register w
  (h, { b with pool := pool }.count false)

/-- The widget that is live under an identity, updated by a description of its kind. -/
def continued? (b : Build) (key fragmentId : String) (head : NodeHead) (spec : WidgetSpec) :
    Option (Handle × Widget) :=
  (b.pool.lookup key).bind fun h =>
    (b.pool.get? h).bind fun w => (w.update fragmentId head spec).map fun w => (h, w)

/-- Renders a widget. -/
def widget (b : Build) (fragmentId : String) (head : NodeHead) (spec : WidgetSpec) :
    Handle × Build :=
  match head.identity with
  | none => b.loose (.make "" fragmentId head spec)
  | some key =>
    if b.widgetIds.contains key then
      (b.report (.duplicateId key fragmentId)).loose (.make key fragmentId head spec)
    else
      let b := { b with widgetIds := b.widgetIds ++ [key] }
      match b.continued? key fragmentId head spec with
      | some (h, w) => (h, { b with pool := b.pool.set h w }.count true)
      | none => b.fresh (.make key fragmentId head spec)

/-- How a described group is attached. -/
def attachment (fragmentId : String) (head : NodeHead) : GroupSpec → Groups.Attachment
  | .checkboxes options value multiple => ⟨head.id, .checkbox, fragmentId, options, value, multiple⟩
  | .radio options value =>
    ⟨head.id, .radio, fragmentId, options, (value.map Json.str).getD .null, false⟩

/-- Renders a group. -/
def group (b : Build) (fragmentId : String) (head : NodeHead) (spec : GroupSpec) :
    Option Rendered × Build :=
  let a := attachment fragmentId head spec
  match head.identity with
  | none =>
    (none, b.report (.malformedNode (a.kind.name ++ " group") ("fragment '" ++ fragmentId ++ "'")
      "group node without id"))
  | some key =>
    if b.groupKeys.contains key then (none, b.report (.duplicateId key fragmentId))
    else
      let (groups, reused) := b.groups.attach key a
      (some (.group key a.kind),
        { b with groups := groups, groupKeys := b.groupKeys ++ [key] }.count reused)

end Build

/-- The fragment that holds what a container holds: its own, unless it has none or an empty id. -/
def effectiveFragment (outer : String) : Option String → String
  | some id => if id = "" then outer else id
  | none => outer

/-- The presentation of a container that is newly rendered. -/
def Box.make (head : NodeHead) (fragmentId : Option String) : Box :=
  ⟨head.id, fragmentId, head.style, head.attributes, 1, true, 0⟩

mutual
/-- Renders a node in a fragment. -/
def Node.render (fragmentId : String) : Node → Build → Option Rendered × Build
  | .markup head tag content, b => (some (.markup tag content head.style), b)
  | .group head spec, b => b.group fragmentId head spec
  | .widget head spec, b =>
    let (h, b) := b.widget fragmentId head spec
    (some (.widget h), b)
  | .container head own children, b =>
    let inner := effectiveFragment fragmentId own
    let (children, b) := Node.renderAll inner children b
    (some (.container (Box.make head (own.map fun _ => inner)) children), b)

/-- Renders nodes in order. -/
def Node.renderAll (fragmentId : String) : List Node → Build → List Rendered × Build
  | [], b => ([], b)
  | n :: rest, b =>
    let (r, b) := n.render fragmentId b
    let (rendered, b) := Node.renderAll fragmentId rest b
    (match r with
     | some r => r :: rendered
     | none => rendered, b)
end

/-- A fragment that has been rendered off screen. -/
structure BuiltFragment where
  root : Panel
  build : Build

/-- Renders a fragment.  Its root carries the fragment's id; a root that is no container shows
nothing. -/
def Fragment.build (f : Fragment) (pool : WidgetPool) (groups : Groups) : BuiltFragment :=
  let (r, b) := f.root.render f.id (Build.start pool groups)
  match r.bind Rendered.panel? with
  | some panel => ⟨{ panel with box := { panel.box with fragmentId := some f.id } }, b⟩
  | none => ⟨⟨Box.make f.root.head (some f.id), []⟩, b⟩

end RemoteUi
