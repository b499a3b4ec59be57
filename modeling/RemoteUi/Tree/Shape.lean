/-
# RemoteUi.Tree.Shape — trees from documents.

A document of an unknown kind, or one whose fields are not as its kind wants them, is left out of
the tree and reported with its path; the rest of the tree is kept.  Only a root that is no usable
container is refused.  A path is `root` followed by the positions, from zero, of the documents
down to the one it names, those left out included.
-/
import RemoteUi.Tree.Props

namespace RemoteUi

open Json (Mismatch)

/-- Why a document is no fragment. -/
inductive TreeError where
  | rootNotContainer (kind : String)
  | malformedRoot (reason : String)
  deriving DecidableEq

/-- The wording of a refused root. -/
def TreeError.message : TreeError → String
  | .rootNotContainer kind => "fragment root must be a container, got " ++ kind
  | .malformedRoot reason => "malformed fragment root: " ++ reason

mutual
/-- How deep containers nest in a document. -/
def Json.depth : Json → Nat
  | .arr items => Json.depthItems items + 1
  | .obj members => Json.depthMembers members + 1
  | _ => 0

/-- The greatest depth of a list of documents. -/
def Json.depthItems : List Json → Nat
  | [] => 0
  | j :: rest => max j.depth (Json.depthItems rest)

/-- The greatest depth of the values of members. -/
def Json.depthMembers : Json.Members → Nat
  | [] => 0
  | (_, j) :: rest => max j.depth (Json.depthMembers rest)
end

namespace Tree

/-- What became of a document: a node or none, and what there is to report. -/
structure Shaped where
  node : Option Node
  diagnostics : List Diagnostic

/-- A leaf of a kind, from the document that describes it.  A container is no leaf. -/
def leaf (kind : String) (head : NodeHead) (j : Json) : Except Mismatch Node :=
  match kind with
  | "html" => (htmlRecord.read j).map fun p => .markup head p.1 (.html p.2)
  | "text" => (textRecord.read j).map fun p => .markup head "p" (.text p)
  | "button" => (buttonRecord.read j).map fun p => .widget head (.button p)
  | "text_input" => (textFieldRecord.read j).map fun p => .widget head (.textField p.1 p.2)
  | "selectbox" => (selectRecord.read j).map fun p => .widget head (.select p)
  | "color_picker" => (colorRecord.read j).map fun p => .widget head (.colorField p)
  | "checkboxes" =>
    (checkboxesRecord.read j).map fun p => .group head (.checkboxes p.1 p.2.1 p.2.2)
  | "radio" => (radioRecord.read j).map fun p => .group head (.radio p.1 p.2)
  | "image" => (imageRecord.read j).map fun p => .widget head (.image p)
  | "dataframe" =>
    (GridProps.record.read j).map fun p =>
      .widget head (.dataGrid p.gridColumns p.rows p.height)
  | "code" => (codeRecord.read j).map fun p => .widget head (.codeEditor p.1 p.2)
  | "file_uploader" =>
    (uploaderRecord.read j).map fun p => .widget head (.fileUploader p.1 p.2)
  | other => .error (.unknownVariant other [])

/-- The path of the document at a position. -/
def childPath (path : String) (position : Nat) : String :=
  path ++ "/" ++ toString position

/-- Nothing but a report. -/
def Shaped.dropped (d : Diagnostic) : Shaped :=
  ⟨none, [d]⟩

/-- Shapes a document whose containers nest at most `depth` deep. -/
def shape : Nat → String → Json → Shaped
  | depth, path, j =>
    match Header.record.read j with
    | .error e => .dropped (.malformedNode "<unknown>" path (e.message .value))
    | .ok header =>
      match NodeKind.ofWire? header.kind with
      | none => .dropped (.unknownKind header.kind path)
      | some .container =>
        match ContainerProps.record.read j with
        | .error e => .dropped (.malformedNode header.kind path (e.message .value))
        | .ok props =>
          match depth with
          | 0 => ⟨some (.container header.head props.fragment []), []⟩
          | depth + 1 =>
            let shaped := props.children.zipIdx.map fun c => shape depth (childPath path c.2) c.1
            ⟨some (.container header.head props.fragment (shaped.filterMap Shaped.node)),
              shaped.flatMap Shaped.diagnostics⟩
      | some _ =>
        match leaf header.kind header.head j with
        | .error e => .dropped (.malformedNode header.kind path (e.message .value))
        | .ok node => ⟨some node, []⟩

end Tree

/-- A fragment as far as it could be shaped, and what there is to report. -/
structure ParsedFragment where
  fragment : Fragment
  diagnostics : List Diagnostic

/-- Shapes the tree of a fragment. -/
def Fragment.ofJson (root : Json) : Except TreeError ParsedFragment :=
  let kind := ((root.get? "type").bind Json.text?).getD "<missing>"
  if NodeKind.ofWire? kind ≠ some .container then .error (.rootNotContainer kind)
  else
    let shaped := Tree.shape root.depth "root" root
    match shaped.node with
    | some (.container head fragmentId children) =>
      .ok ⟨⟨fragmentId.getD "", .container head fragmentId children⟩, shaped.diagnostics⟩
    | _ =>
      .error (.malformedRoot
        ((shaped.diagnostics.head?.map Diagnostic.message).getD "unreadable root"))

end RemoteUi
