/-
# RemoteUi.Screen.Outline — a rendered tree as lines of text.

An outline has one line for a container and one for each node inside it, in document order.  The
contents of a container are indented by two blanks more than the container itself.
-/
import RemoteUi.Decimal.Shortest
import RemoteUi.Screen.Rendered
import RemoteUi.Widget.Pool

namespace RemoteUi

/-- The blanks before a line at a depth. -/
def indentation (depth : Nat) : String :=
  String.ofList (List.replicate (2 * depth) ' ')

/-- What an outline says of a container. -/
def Box.line (b : Box) : String :=
  "container " ++ b.id.getD "-" ++ " opacity=" ++ Decimal.twoPlaces b.opacity

/-- What an outline says of a node, apart from what is inside it. -/
def Rendered.line (pool : WidgetPool) : Rendered → String
  | .markup tag content _ => "<" ++ tag ++ "> " ++ content.source
  | .container box _ => box.line
  | .widget h =>
    match pool.get? h with
    | some w => w.kind.name ++ " " ++ w.key
    | none => ""
  | .group key kind => kind.name ++ " group " ++ key

mutual
/-- The outline of a node at a depth. -/
def Rendered.outline (pool : WidgetPool) (depth : Nat) : Rendered → List String
  | .container box children =>
    (indentation depth ++ box.line) :: Rendered.outlineOf pool (depth + 1) children
  | r => [indentation depth ++ r.line pool]

/-- The outlines of a list of trees, one after the other. -/
def Rendered.outlineOf (pool : WidgetPool) (depth : Nat) : List Rendered → List String
  | [] => []
  | r :: rest => r.outline pool depth ++ Rendered.outlineOf pool depth rest
end

/-- The outline of a container. -/
def Panel.outline (p : Panel) (pool : WidgetPool) : List String :=
  p.node.outline pool 0

end RemoteUi
