/-
# RemoteUi.Tree.Props — the fields of each kind of node.

Every kind has a record of the fields it reads; the node's head is read before, from the same
document.  Ids and sizes are read leniently: a number counts as its text, and anything but a
number or a text that is not empty counts as absent.
-/
import RemoteUi.Event
import RemoteUi.Tree.Node

namespace RemoteUi.Tree

open Json (Record Field readText readFlag readAny readOption readList readMembers Mismatch)

/-! ## Lenient readings -/

/-- A text or a number, as a text that is not empty. -/
def lenientText (j : Json) : Option String :=
  match j with
  | .str s => if s = "" then none else some s
  | j => j.numberText?

/-- Lenient texts are never refused. -/
def readLenient (j : Json) : Except Mismatch (Option String) :=
  .ok (lenientText j)

/-- An object; anything else counts as an empty one. -/
def readStyle : Json → Except Mismatch Json.Members
  | .obj members => .ok (Json.mergedMembers members [])
  | _ => .ok []

/-- A list of documents as they are. -/
def readItems : Json → Except Mismatch (List Json)
  | .arr items => .ok items
  | j => .error (.invalidType j "a sequence")

/-- A text that is there and not empty. -/
def nonempty (s : Option String) : Option String :=
  s.filter (· ≠ "")

/-! ## Heads -/

/-- The head of a node, with the kind it names. -/
structure Header where
  kind : String
  head : NodeHead

/-- The shape of a head. -/
def Header.record : Record Header where
  name := "struct NodeHeader"
  fields := [
    .mandatory "type" readText fun a h => { h with kind := a },
    .optional "id" readLenient fun a h => { h with head := { h.head with id := a } },
    .optional "container_id" readLenient
      fun a h => { h with head := { h.head with containerId := a } },
    .optional "local_id" readLenient fun a h => { h with head := { h.head with localId := a } },
    .optional "css" readStyle fun a h => { h with head := { h.head with style := a } },
    .optional "attributes" readStyle
      fun a h => { h with head := { h.head with attributes := a } }]
  blank := ⟨"", none, none, none, [], []⟩

/-! ## Kinds -/

/-- Markup given as source: tag and contents. -/
def htmlRecord : Record (String × String) where
  name := "struct HtmlProps"
  fields := [
    .optional "tag" readText fun a r => (a, r.2),
    .optional "inner_html" readText fun a r => (r.1, a)]
  blank := ("div", "")

/-- Markup given as plain text. -/
def textRecord : Record String where
  name := "struct TextProps"
  fields := [.optional "text" readText fun a _ => a]
  blank := ""

/-- The fields of a container. -/
structure ContainerProps where
  isFragment : Bool
  fragmentId : Option String
  children : List Json

/-- The shape of a container. -/
def ContainerProps.record : Record ContainerProps where
  name := "struct ContainerProps"
  fields := [
    .optional "is_fragment_container" readFlag fun a r => { r with isFragment := a },
    .optional "fragment_id" readLenient fun a r => { r with fragmentId := a },
    .optional "children" readItems fun a r => { r with children := a }]
  blank := ⟨false, none, []⟩

/-- The fragment that a container is the root of. -/
def ContainerProps.fragment (p : ContainerProps) : Option String :=
  if p.isFragment then some (p.fragmentId.getD "") else none

/-- The shape of a button. -/
def buttonRecord : Record Button where
  name := "struct ButtonProps"
  fields := [
    .optional "label" readText fun a r => { r with label := a },
    .optional "icon" (readOption readText) fun a r => { r with icon := nonempty a },
    .optional "style" (readOption readText) fun a r => { r with style := nonempty a },
    .optional "download_name" (readOption readText)
      fun a r => { r with downloadName := nonempty a }]
  blank := ⟨"", none, none, none⟩

/-- The shape of a text field: value and placeholder. -/
def textFieldRecord : Record (Option String × String) where
  name := "struct TextInputProps"
  fields := [
    .optional "value" (readOption readText) fun a r => (a, r.2),
    .optional "placeholder" (readOption readText) fun a r => (r.1, a.getD "")]
  blank := (none, "")

/-- The shape of a choice. -/
def selectRecord : Record Select where
  name := "struct SelectProps"
  fields := [
    .optional "options" (readList readText) fun a r => { r with options := a },
    .optional "value" readAny fun a r => { r with value := a },
    .optional "multiple" readFlag fun a r => { r with multiple := a },
    .optional "placeholder" (readOption readText) fun a r => { r with placeholder := a.getD "" }]
  blank := ⟨[], .null, false, ""⟩

/-- The shape of a colour field. -/
def colorRecord : Record (Option String) where
  name := "struct ColorProps"
  fields := [.optional "value" (readOption readText) fun a _ => a]
  blank := none

/-- The shape of a group of checkboxes: options, value, and whether several may be checked. -/
def checkboxesRecord : Record (List String × Json × Bool) where
  name := "struct CheckboxesProps"
  fields := [
    .optional "options" (readList readText) fun a r => (a, r.2),
    .optional "value" readAny fun a r => (r.1, a, r.2.2),
    .optional "multiple" readFlag fun a r => (r.1, r.2.1, a)]
  blank := ([], .null, false)

/-- The shape of a group of radio buttons: options and value. -/
def radioRecord : Record (List String × Option String) where
  name := "struct RadioProps"
  fields := [
    .optional "options" (readList readText) fun a r => (a, r.2),
    .optional "value" (readOption readText) fun a r => (r.1, a)]
  blank := ([], none)

/-- The shape of a picture. -/
def imageRecord : Record Image where
  name := "struct ImageProps"
  fields := [
    .mandatory "src" readText fun a r => { r with src := a },
    .optional "width" readLenient fun a r => { r with width := a },
    .optional "height" readLenient fun a r => { r with height := a }]
  blank := ⟨"", none, none⟩

/-- The column type with a name; a name that is not known is a type too. -/
def columnType (s : String) : Except Mismatch ColumnType :=
  .ok (if s = "Number" then .number else if s = "String" then .string else .other)

/-- The shape of a column's configuration; its name is put in afterwards. -/
def columnRecord : Record Column where
  name := "struct ColumnConfig"
  fields := [
    .optional "type" (Json.readVariant columnType) fun a r => { r with type := a },
    .optional "required" readFlag fun a r => { r with required := a },
    .optional "editable" readFlag fun a r => { r with editable := a }]
  blank := ⟨"", .other, false, false⟩

/-- The configured columns, by name. -/
def readColumns : Json → Except Mismatch (List (String × Column))
  | .obj members => members.mapM fun m => (columnRecord.read m.2).map fun c => (m.1, c)
  | j => .error (.invalidType j "a map")

/-- The fields of a grid. -/
structure GridProps where
  rows : List Json.Members
  columns : List (String × Column)
  height : Option String

/-- The shape of a grid. -/
def GridProps.record : Record GridProps where
  name := "struct DataGridProps"
  fields := [
    .optional "initial_value" (readList readMembers) fun a r => { r with rows := a },
    .optional "column_config" readColumns fun a r => { r with columns := a },
    .optional "height" readLenient fun a r => { r with height := a }]
  blank := ⟨[], [], none⟩

/-- The columns of a grid: the keys of its first row in order, as they are configured. -/
def GridProps.gridColumns (p : GridProps) : List Column :=
  match p.rows with
  | [] => []
  | row :: _ => row.map fun m =>
    match p.columns.find? fun c => c.1 = m.1 with
    | some c => { c.2 with name := m.1 }
    | none => { columnRecord.blank with name := m.1 }

/-- The shape of a code editor: text, and whether lines are numbered. -/
def codeRecord : Record (String × Bool) where
  name := "struct CodeProps"
  fields := [
    .optional "initial_value" readText fun a r => (a, r.2),
    .optional "show_line_numbers" readFlag fun a r => (r.1, a)]
  blank := ("", false)

/-- The shape of a file uploader: whether several files are taken, and of which types. -/
def uploaderRecord : Record (Bool × List String) where
  name := "struct FileUploaderProps"
  fields := [
    .optional "multiple" readFlag fun a r => (a, r.2),
    .optional "types" (readList readText) fun a r => (r.1, a)]
  blank := (false, [])

end RemoteUi.Tree
