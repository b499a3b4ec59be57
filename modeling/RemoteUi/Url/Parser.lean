/-
# RemoteUi.Url.Parser — reading an address.

The text is first stripped: control characters and spaces at its ends go, and tabs and line breaks
anywhere in it.  What is left must start with a scheme, for there is no base to resolve it
against.  The kind of the scheme decides whether a host follows, and how host and path are read.
Under `file` the tabs and line breaks are passed over while reading, since a path may depend on
where they stood.
-/
import RemoteUi.Text.Visible
import RemoteUi.Url.Path

namespace RemoteUi.Url

/-- A character of a scheme. -/
def isSchemeChar (c : Char) : Bool :=
  c.isAlphanum || c == '+' || c == '-' || c == '.'

/-- The scheme, in lower case, and what follows its colon. -/
def scheme? (cs : List Char) : Option (String × List Char) :=
  match cs with
  | [] => none
  | c :: _ =>
    if c.isAlpha then
      match cs.dropWhile isSchemeChar with
      | ':' :: rest => some (String.ofList ((cs.takeWhile isSchemeChar).map Char.toLower), rest)
      | _ => none
    else none

/-! ## Query and fragment -/

/-- Reads the query and the fragment. -/
def tails (kind : SchemeKind) (cs : List Char) : Option String × Option String :=
  let fragment := fun (cs : List Char) => match cs with
    | '#' :: rest => some (String.ofList (encode inFragment rest))
    | _ => none
  match cs with
  | '?' :: rest =>
    let set := if kind.isSpecial then inSpecialQuery else inQuery
    (some (String.ofList (encode set (rest.takeWhile (· ≠ '#')))),
      fragment (rest.dropWhile (· ≠ '#')))
  | _ => (none, fragment cs)

/-! ## Authority -/

/-- The character ends an authority. -/
def endsAuthority (kind : SchemeKind) (c : Char) : Bool :=
  c == '/' || c == '?' || c == '#' || (kind.isSpecial && c == '\\')

/-- A user name and a password as they are written, with the sign that ends them.  The first colon
divides them; an empty password is left out with its colon. -/
def userinfoText (cs : List Char) : List Char :=
  let user := cs.takeWhile (· ≠ ':')
  let password := (cs.dropWhile (· ≠ ':')).drop 1
  let user := encode inUserinfo user
  let password := if password = [] then [] else ':' :: encode inUserinfo password
  if user = [] ∧ password = [] then [] else user ++ password ++ ['@']

/-- Divides off the user name and password, which the last at-sign of the authority ends. -/
def userinfo (kind : SchemeKind) (cs : List Char) : Except ParseError (List Char × List Char) :=
  let authority := cs.takeWhile fun c => !endsAuthority kind c
  let tail := (authority.reverse.takeWhile (· ≠ '@')).reverse
  if tail.length = authority.length then .ok ([], cs)
  else
    let before := authority.take (authority.length - tail.length - 1)
    let rest := cs.drop (before.length + 1)
    if before = [] ∧ rest.head?.any (endsAuthority kind) then .error .emptyHost
    else .ok (userinfoText before, rest)

/-- The characters of a host; a colon ends it outside brackets. -/
def hostSpan (kind : SchemeKind) : Bool → List Char → List Char × List Char
  | _, [] => ([], [])
  | inside, c :: rest =>
    if (c = ':' ∧ !inside) ∨ endsAuthority kind c then ([], c :: rest)
    else
      let inside := if c = '[' then true else if c = ']' then false else inside
      let (host, rest) := hostSpan kind inside rest
      (c :: host, rest)

/-- Reads a port: digits, ended by the path, query or fragment. -/
def portDigits : List Char → Nat → Bool → Except ParseError (Option Nat × List Char)
  | [], n, any => .ok (if any then some n else none, [])
  | c :: rest, n, any =>
    if c.isDigit then
      let m := 10 * n + (c.toNat - 0x30)
      if 65535 < m then .error .badPort else portDigits rest m true
    else if c = '/' ∨ c = '\\' ∨ c = '?' ∨ c = '#' then
      .ok (if any then some n else none, c :: rest)
    else .error .badPort

/-- Reads a port; the one that the scheme implies is left out. -/
def port? (scheme : String) (cs : List Char) : Except ParseError (Option Nat × List Char) :=
  match cs with
  | ':' :: rest =>
    match portDigits rest 0 false with
    | .error e => .error e
    | .ok (port, rest) => .ok (if port = defaultPort? scheme then none else port, rest)
  | _ => .ok (none, cs)

/-- Reads the host. -/
def readHost (kind : SchemeKind) (cs : List Char) : Except ParseError String :=
  if kind.isSpecial then
    if cs = [] then .error .emptyHost else (Host.parse cs).map Host.text
  else (Host.parseRaw cs).map Host.text

/-- Reads an authority. -/
def readAuthority (scheme : String) (kind : SchemeKind) (cs : List Char) :
    Except ParseError (Authority × List Char) :=
  match userinfo kind cs with
  | .error e => .error e
  | .ok (userinfo, rest) =>
    let (span, rest) := hostSpan kind false rest
    match readHost kind span with
    | .error e => .error e
    | .ok host =>
      if host = "" ∧ (rest.head? = some ':' ∨ userinfo ≠ []) then .error .emptyHost
      else
        match port? scheme rest with
        | .error e => .error e
        | .ok (port, rest) => .ok (⟨String.ofList userinfo, host, port⟩, rest)

/-! ## Addresses -/

/-- An address with the given path; query and fragment are still to be read. -/
def withTails (scheme : String) (kind : SchemeKind) (authority : Option Authority)
    (path rest : List Char) : Url :=
  let (query, fragment) := tails kind rest
  let guarded := authority.isNone && path.take 2 == ['/', '/']
  ⟨scheme, authority, guarded, String.ofList path, query, fragment⟩

/-- Reads what follows the two slashes of an address with a host. -/
def afterSlashes (scheme : String) (kind : SchemeKind) (cs : List Char) : Except ParseError Url :=
  match readAuthority scheme kind cs with
  | .error e => .error e
  | .ok (authority, rest) =>
    let (path, rest) := startPath .address kind false rest
    .ok (withTails scheme kind (some authority) path.text rest)

/-- A `file` address with a host as written, which may be empty. -/
def fileUrl (host : String) (path rest : List Char) : Url :=
  withTails "file" .file (some ⟨"", host, none⟩) path (withoutBreaks rest)

/-- A slash or a backslash. -/
def isSlash (c : Char) : Bool :=
  c == '/' || c == '\\'

/-- Reads what follows the two slashes of a `file` address.  A drive letter is no host, and neither
is the name `localhost`. -/
def afterFileSlashes (cs : List Char) : Except ParseError Url :=
  let upToPath := cs.takeWhile fun c => !endsAuthority .file c
  let after := cs.drop upToPath.length
  let span := withoutBreaks upToPath
  let hostless := fun after =>
    let (path, rest) := writePath .address .file false after ['/']
    Except.ok (fileUrl "" path.text rest)
  if isDrive span then hostless cs
  else if span = [] then hostless after
  else
    match Host.parse span with
    | .error e => .error e
    | .ok host =>
      if host.text = "localhost" then hostless after
      else
        let (path, rest) := startPath .address .file false after
        .ok (fileUrl (if path.drive then "" else host.text) path.text rest)

/-- Reads what follows the scheme of a `file` address. -/
def readFile (cs : List Char) : Except ParseError Url :=
  let hostless := fun start =>
    let (path, rest) := writePath .address .file true cs start
    Except.ok (fileUrl "" path.text rest)
  match skipBreaks cs with
  | [] => hostless ['/']
  | a :: rest =>
    if isSlash a then
      match skipBreaks rest with
      | [] => hostless []
      | b :: rest => if isSlash b then afterFileSlashes rest else hostless []
    else hostless ['/']

/-- Reads what follows the scheme of an address that is not special. -/
def readOther (scheme : String) (cs : List Char) : Except ParseError Url :=
  match cs with
  | '/' :: '/' :: rest => afterSlashes scheme .other rest
  | '/' :: rest =>
    let (path, rest) := writePath .address .other false rest ['/']
    .ok (withTails scheme .other none path.text rest)
  | _ =>
    let path := cs.takeWhile fun c => c ≠ '?' ∧ c ≠ '#'
    .ok (withTails scheme .other none (encode inControls path) (cs.drop path.length))

/-- Reads an address. -/
def parse (s : String) : Except ParseError Url :=
  let cs := Text.stripEnds (fun c => c.toNat ≤ 0x20) s.toList
  match scheme? (withoutBreaks cs) with
  | none => .error .relativeWithoutBase
  | some (scheme, rest) =>
    match SchemeKind.of scheme with
    | .file => readFile ((cs.dropWhile (· ≠ ':')).drop 1)
    | .network => afterSlashes scheme .network (rest.dropWhile isSlash)
    | .other => readOther scheme rest

end RemoteUi.Url
