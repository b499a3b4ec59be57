/-
# RemoteUi.Location — where the client is.

A location is the snapshot of an address that every greeting and every request carries.
-/
import RemoteUi.Json.Basic
import RemoteUi.Url.Edit

namespace RemoteUi

/-- A snapshot of the address that the client was opened at. -/
structure Location where
  href : String
  pathname : String
  host : String
  hostname : String
  search : String
  deriving DecidableEq

namespace Location

/-- The snapshot of an address.  An empty query counts as none. -/
def ofUrl (u : Url) : Location where
  href := u.text
  pathname := u.path
  hostname := u.host
  host :=
    match u.port with
    | some p => u.host ++ ":" ++ toString p
    | none => u.host
  search :=
    match u.query with
    | some q => if q = "" then "" else "?" ++ q
    | none => ""

/-- The location that a text names. -/
def parse (s : String) : Except Url.ParseError Location :=
  (Url.parse s).map ofUrl

/-- Scheme, host and port of the location, with the root as path. -/
def origin (l : Location) : Except Url.ParseError Url :=
  (Url.parse l.href).map fun u => (u.setPath "/").withoutTails

/-- The location as it stands in an envelope. -/
def toJson (l : Location) : Json :=
  .obj [("href", .str l.href), ("pathname", .str l.pathname), ("host", .str l.host),
    ("hostname", .str l.hostname), ("search", .str l.search)]

end Location

end RemoteUi
