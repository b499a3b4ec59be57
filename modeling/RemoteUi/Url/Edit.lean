/-
# RemoteUi.Url.Edit — addresses made from other addresses.

`setPath` replaces the path, `pushSegment` adds one segment to it, and `withQuery` gives an address
a form's query.  An address that carries no path with segments keeps its text after the colon as
one piece, in which a leading slash is encoded.
-/
import RemoteUi.Url.Parser

namespace RemoteUi.Url

/-- The kind of an address's scheme. -/
def kind (u : Url) : SchemeKind :=
  SchemeKind.of u.scheme

/-- What is written before the path ends with a slash. -/
def slashBeforePath (u : Url) : Bool :=
  match u.authority with
  | some a => a.userinfo == "" && a.host == "" && a.port.isNone
  | none => false

/-- The address with another path. -/
def setPath (u : Url) (path : String) : Url :=
  if u.isBase then
    let written := startPath .whole u.kind u.slashBeforePath path.toList
    { u with path := String.ofList written.1.text }
  else
    let text := match path.toList with
      | '/' :: rest => ['%', '2', 'F'] ++ encode inControls (withoutBreaks rest)
      | cs => encode inControls (withoutBreaks cs)
    { u with path := String.ofList text }

/-- The address without query and fragment. -/
def withoutTails (u : Url) : Url :=
  { u with query := none, fragment := none }

/-- The path without the slash at its end, if that is not its first character. -/
def withoutLastSlash (path : List Char) : List Char :=
  if 1 < path.length ∧ path.getLast? = some '/' then path.dropLast else path

/-- The address with one more segment in its path.  A single dot and two dots are no segments and
add nothing; an empty last segment is replaced. -/
def pushSegment (u : Url) (segment : String) : Url :=
  let path := withoutLastSlash u.path.toList
  if segment = "." ∨ segment = ".." then { u with path := String.ofList path }
  else
    let start := if path.length ≠ 1 then path ++ ['/'] else path
    let written := writePath .segment u.kind u.slashBeforePath segment.toList start
    { u with path := String.ofList written.1.text }

/-- The address with a form's query of the given pairs. -/
def withQuery (u : Url) (pairs : List (String × String)) : Url :=
  { u with query := some (pairs.foldl (fun query p => appendPair query p.1 p.2) "") }

end RemoteUi.Url
