/-
# RemoteUi.Url.Basic — addresses.

An address is kept as the parts it is written from, so its text is their concatenation.  A scheme
is special when its addresses always have a host and take the backslash for a slash; `file` is
special but may lack the host.  An address without a slash after its scheme carries no path that
could be edited: `isBase` says that it can.
-/
import RemoteUi.Url.Host

namespace RemoteUi

namespace Url

/-- How a scheme treats host and path. -/
inductive SchemeKind where
  | file
  | network
  | other
  deriving DecidableEq

/-- The kind of a scheme. -/
def SchemeKind.of (scheme : String) : SchemeKind :=
  if scheme = "file" then .file
  else if ["http", "https", "ws", "wss", "ftp"].contains scheme then .network
  else .other

/-- The scheme is one of the special ones. -/
def SchemeKind.isSpecial : SchemeKind → Bool
  | .other => false
  | _ => true

/-- The port that a scheme implies. -/
def defaultPort? (scheme : String) : Option Nat :=
  if scheme = "http" ∨ scheme = "ws" then some 80
  else if scheme = "https" ∨ scheme = "wss" then some 443
  else if scheme = "ftp" then some 21
  else none

/-- What stands between the two slashes and the path. -/
structure Authority where
  /-- User name and password with the sign that ends them, as written. -/
  userinfo : String
  host : String
  port : Option Nat
  deriving DecidableEq

end Url

/-- An address. -/
structure Url where
  scheme : String
  authority : Option Url.Authority
  /-- `/.` is written before a path that would otherwise look like a host. -/
  guarded : Bool
  path : String
  query : Option String
  fragment : Option String
  deriving DecidableEq

namespace Url

/-- The text of an authority, with its slashes. -/
def Authority.text (a : Authority) : String :=
  "//" ++ a.userinfo ++ a.host ++
    match a.port with
    | some p => ":" ++ toString p
    | none => ""

/-- The text of an address. -/
def text (u : Url) : String :=
  u.scheme ++ ":" ++
    (match u.authority with
     | some a => a.text
     | none => "") ++
    (if u.guarded then "/." else "") ++ u.path ++
    (match u.query with
     | some q => "?" ++ q
     | none => "") ++
    (match u.fragment with
     | some f => "#" ++ f
     | none => "")

/-- The host as written, empty if there is none. -/
def host (u : Url) : String :=
  match u.authority with
  | some a => a.host
  | none => ""

/-- The port, if it is not the one that the scheme implies. -/
def port (u : Url) : Option Nat :=
  u.authority.bind Authority.port

/-- The address has a path that starts with a slash, or a place for one. -/
def isBase (u : Url) : Bool :=
  u.authority.isSome || u.guarded || u.path.toList.head? = some '/'

end Url

end RemoteUi
