/-
# RemoteUi.Tree.Node — the trees that describe a user interface.

A node is markup, a group of checkboxes or radio buttons, a widget, or a container of nodes.  All
nodes have a head: the ids that say which node it is, and presentation that is passed through
unread.  A widget or group is known by its `identity`: the id that the server gave it, or else
its place, `container/local`.

What is wrong with a tree, or cannot be sent, does not end a session: it is a `Diagnostic`, which
the host is told and which is otherwise without effect.
-/
import RemoteUi.Json.Printer

namespace RemoteUi

/-- The kinds of node. -/
inductive NodeKind where
  | markup
  | container
  | button
  | textField
  | select
  | colorField
  | checkboxGroup
  | radioGroup
  | image
  | dataGrid
  | codeEditor
  | fileUploader
  deriving DecidableEq

/-- What messages call a kind. -/
def NodeKind.name : NodeKind → String
  | .markup => "Markup"
  | .container => "Container"
  | .button => "Button"
  | .textField => "TextField"
  | .select => "Select"
  | .colorField => "ColorField"
  | .checkboxGroup => "CheckboxGroup"
  | .radioGroup => "RadioGroup"
  | .image => "Image"
  | .dataGrid => "DataGrid"
  | .codeEditor => "CodeEditor"
  | .fileUploader => "FileUploader"

/-- The kind that a tree's `type` names. -/
def NodeKind.ofWire? : String → Option NodeKind
  | "html" => some .markup
  | "text" => some .markup
  | "container" => some .container
  | "button" => some .button
  | "text_input" => some .textField
  | "selectbox" => some .select
  | "color_picker" => some .colorField
  | "checkboxes" => some .checkboxGroup
  | "radio" => some .radioGroup
  | "image" => some .image
  | "dataframe" => some .dataGrid
  | "code" => some .codeEditor
  | "file_uploader" => some .fileUploader
  | _ => none

/-! ## Contents -/

/-- What a markup element holds. -/
inductive Markup where
  | html (source : String)
  | text (text : String)
  deriving DecidableEq

/-- The text that a markup element holds, whatever it means. -/
def Markup.source : Markup → String
  | .html s => s
  | .text s => s

/-- What a button shows and does.  With a download name it starts a download. -/
structure Button where
  label : String
  icon : Option String
  style : Option String
  downloadName : Option String
  deriving DecidableEq

/-- A choice among options. -/
structure Select where
  options : List String
  value : Json
  multiple : Bool
  placeholder : String

/-- A picture. -/
structure Image where
  src : String
  width : Option String
  height : Option String
  deriving DecidableEq

/-- What the cells of a column hold. -/
inductive ColumnType where
  | number
  | string
  | other
  deriving DecidableEq

/-- A column of a grid. -/
structure Column where
  name : String
  type : ColumnType
  required : Bool
  editable : Bool
  deriving DecidableEq

/-- A widget as the server describes it. -/
inductive WidgetSpec where
  | button (button : Button)
  | textField (value : Option String) (placeholder : String)
  | select (select : Select)
  | colorField (value : Option String)
  | image (image : Image)
  | dataGrid (columns : List Column) (rows : List Json.Members) (height : Option String)
  | codeEditor (text : String) (lineNumbers : Bool)
  | fileUploader (multiple : Bool) (accept : List String)

/-- The kind of a described widget. -/
def WidgetSpec.kind : WidgetSpec → NodeKind
  | .button _ => .button
  | .textField _ _ => .textField
  | .select _ => .select
  | .colorField _ => .colorField
  | .image _ => .image
  | .dataGrid _ _ _ => .dataGrid
  | .codeEditor _ _ => .codeEditor
  | .fileUploader _ _ => .fileUploader

/-- A group as the server describes it. -/
inductive GroupSpec where
  | checkboxes (options : List String) (value : Json) (multiple : Bool)
  | radio (options : List String) (value : Option String)

/-- The kind of a described group. -/
def GroupSpec.kind : GroupSpec → NodeKind
  | .checkboxes _ _ _ => .checkboxGroup
  | .radio _ _ => .radioGroup

/-! ## Nodes -/

/-- What all nodes have. -/
structure NodeHead where
  /-- The id that the server gave the node. -/
  id : Option String
  containerId : Option String
  localId : Option String
  style : Json.Members
  attributes : Json.Members

/-- The identity of a node: its id, or else its place. -/
def NodeHead.identity (h : NodeHead) : Option String :=
  match h.id with
  | some id => some id
  | none =>
    match h.containerId, h.localId with
    | some c, some l => some (c ++ "/" ++ l)
    | _, _ => none

/-- A node of a tree. -/
inductive Node where
  | markup (head : NodeHead) (tag : String) (content : Markup)
  | group (head : NodeHead) (spec : GroupSpec)
  | widget (head : NodeHead) (spec : WidgetSpec)
  /-- A container with a fragment id is the root of a fragment; an empty one inherits its
  fragment. -/
  | container (head : NodeHead) (fragmentId : Option String) (children : List Node)

namespace Node

/-- The head of a node. -/
def head : Node → NodeHead
  | .markup h _ _ => h
  | .group h _ => h
  | .widget h _ => h
  | .container h _ _ => h

/-- The kind of a node. -/
def kind : Node → NodeKind
  | .markup _ _ _ => .markup
  | .group _ spec => spec.kind
  | .widget _ spec => spec.kind
  | .container _ _ _ => .container

/-- The identity of a node. -/
def identity (n : Node) : Option String :=
  n.head.identity

/-- The nodes in a container. -/
def children : Node → List Node
  | .container _ _ children => children
  | _ => []

mutual
/-- A node and all nodes below it, in document order. -/
def nodes : Node → List Node
  | .container h f children => .container h f children :: nodesOf children
  | n => [n]

/-- The nodes of a list of trees, in document order. -/
def nodesOf : List Node → List Node
  | [] => []
  | n :: rest => n.nodes ++ nodesOf rest
end

/-- The nodes of one kind in a tree, in document order. -/
def collect (n : Node) (kind : NodeKind) : List Node :=
  n.nodes.filter fun m => m.kind = kind

/-- The source of a picture. -/
def imageSource? : Node → Option String
  | .widget _ (.image image) => some image.src
  | _ => none

end Node

/-- A region that can be replaced on its own, and the tree it shows. -/
structure Fragment where
  id : String
  root : Node

/-- The sources of all pictures in a fragment, in document order. -/
def Fragment.imageSources (f : Fragment) : List String :=
  f.root.nodes.filterMap Node.imageSource?

/-! ## Diagnostics -/

/-- A problem with what the server sent, or with what cannot be sent to it. -/
inductive Diagnostic where
  | unknownKind (kind path : String)
  | malformedNode (kind path reason : String)
  | duplicateId (id fragmentId : String)
  | renderSkipped (fragmentId reason : String)
  | requestTooLarge (bytes cap : Nat)
  deriving DecidableEq

/-- The wording of a diagnostic. -/
def Diagnostic.message : Diagnostic → String
  | .unknownKind kind path => "unknown node kind '" ++ kind ++ "' at " ++ path
  | .malformedNode kind path reason =>
    "malformed " ++ kind ++ " node at " ++ path ++ ": " ++ reason
  | .duplicateId id fragmentId =>
    "duplicate widget id '" ++ id ++ "' in fragment '" ++ fragmentId ++ "'"
  | .renderSkipped fragmentId reason =>
    "response for fragment '" ++ fragmentId ++ "' not rendered: " ++ reason
  | .requestTooLarge bytes cap =>
    "request of " ++ toString bytes ++ " bytes exceeds the " ++ toString cap ++
      " byte frame limit; not sent"

end RemoteUi
