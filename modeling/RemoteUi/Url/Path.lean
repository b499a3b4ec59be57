/-
# RemoteUi.Url.Path — the path of an address.

A path is written segment by segment.  A segment `.` adds nothing, and `..` takes back the segment
before it; both may be percent-encoded.  A drive letter at the start of a `file` path is kept, with
a colon, and no `..` takes it back.  `writePath` appends to a path what a text says, in one of
three situations: the text is part of an address, it is a whole new path, or it is a single
segment.

Tabs and line breaks in the text are passed over.  They are not without effect: what stands before
one is written when it is met, and a `file` path that is no more than a drive letter by then gets
its slash before the next character.
-/
import RemoteUi.Url.Basic

namespace RemoteUi.Url

/-- What a text to be written as a path is. -/
inductive PathSource where
  /-- Part of an address: a question mark or hash ends it. -/
  | address
  /-- A whole path. -/
  | whole
  /-- One segment, in which a slash does not separate. -/
  | segment
  deriving DecidableEq

/-! ## Tabs and line breaks -/

/-- A tab or a line break, which no address holds. -/
def isTabOrBreak (c : Char) : Bool :=
  c == '\t' || c == '\n' || c == '\r'

/-- A text without tabs and line breaks. -/
def withoutBreaks (cs : List Char) : List Char :=
  cs.filter fun c => !isTabOrBreak c

/-- A text from its first character that is no tab or line break. -/
def skipBreaks (cs : List Char) : List Char :=
  cs.dropWhile isTabOrBreak

/-! ## Drive letters -/

/-- A text that starts with a drive letter, followed by nothing or by the end of its segment. -/
def startsWithDrive : List Char → Bool
  | a :: b :: rest =>
    a.isAlpha && (b == ':' || b == '|') &&
      (match rest with
       | [] => true
       | c :: _ => c == '/' || c == '\\' || c == '?' || c == '#')
  | _ => false

/-- A segment that is a drive letter. -/
def isDrive (cs : List Char) : Bool :=
  cs.length == 2 && startsWithDrive cs

/-- A segment that is a drive letter with a colon. -/
def isNormalDrive (cs : List Char) : Bool :=
  isDrive cs && cs.drop 1 == [':']

/-! ## Slashes and segments

While a path is written its characters are kept in reverse, so that its end is at hand.
-/

/-- The path ends with a slash.  `slashBefore` says so of what is written before an empty path. -/
def endsWithSlash (slashBefore : Bool) : List Char → Bool
  | c :: _ => c == '/'
  | [] => slashBefore

/-- A path without its last slash, unless that slash is its first or ends a drive letter. -/
def dropLastSlash (path : List Char) : List Char :=
  match path with
  | '/' :: before =>
    if startsWithDrive (before.takeWhile (· ≠ '/')).reverse || !before.contains '/' then path
    else before
  | _ => path

/-- A path up to and with its last slash.  A drive letter stays. -/
def dropLastSegment (kind : SchemeKind) (path : List Char) : List Char :=
  if kind = .file ∧ isNormalDrive (path.takeWhile (· ≠ '/')).reverse then path
  else
    match path.dropWhile (· ≠ '/') with
    | [] => path
    | upToSlash => upToSlash

/-- A dot, or its percent-encoded form, at the start of a text. -/
def afterDot? : List Char → Option (List Char)
  | '.' :: rest => some rest
  | '%' :: '2' :: 'e' :: rest => some rest
  | '%' :: '2' :: 'E' :: rest => some rest
  | _ => none

/-- The segment is a single dot. -/
def isDot (segment : List Char) : Bool :=
  afterDot? segment == some []

/-- The segment is two dots. -/
def isDoubleDot (segment : List Char) : Bool :=
  (afterDot? segment).bind afterDot? == some []

/-- A path while it is written. -/
structure OpenPath where
  /-- What is written, in reverse. -/
  written : List Char
  /-- A drive letter was written as its first segment. -/
  drive : Bool

/-- The segment is a drive letter that begins a `file` path, of which there is one character. -/
def beginsWithDrive (kind : SchemeKind) (path segment : List Char) : Bool :=
  kind == .file && isDrive segment &&
    (match path with
     | [_] => true
     | _ => false)

/-- Appends a segment, and the slash after it if there is one. -/
def appendSegment (kind : SchemeKind) (slashBefore : Bool) (path : OpenPath)
    (segment : List Char) (slash : Bool) : OpenPath :=
  if isDoubleDot segment then
    let shorter := dropLastSegment kind (dropLastSlash path.written)
    { path with
      written := if slash && !endsWithSlash slashBefore shorter then '/' :: shorter else shorter }
  else if isDot segment then
    { path with
      written :=
        if endsWithSlash slashBefore path.written then path.written else '/' :: path.written }
  else
    let drive := beginsWithDrive kind path.written segment
    let segment := if drive then segment.take 1 ++ [':'] else segment
    { written := (if slash then ['/'] else []) ++ (segment.reverse ++ path.written),
      drive := path.drive || drive }

/-! ## Whole paths -/

/-- The characters encoded in a path that comes from a source. -/
def encodedIn (source : PathSource) (kind : SchemeKind) : Char → Bool :=
  match source with
  | .segment => if kind.isSpecial then inSpecialSegment else inSegment
  | _ => inPath

/-- The character ends a segment. -/
def isSeparator (source : PathSource) (kind : SchemeKind) (c : Char) : Bool :=
  source != .segment && (c == '/' || (kind.isSpecial && c == '\\'))

/-- The character ends the path. -/
def endsPath (source : PathSource) (c : Char) : Bool :=
  source == .address && (c == '?' || c == '#')

/-- A segment while it is read. -/
structure OpenSegment where
  /-- What stood before the last tab or line break, encoded and in reverse. -/
  written : List Char
  /-- The characters since, in reverse. -/
  pending : List Char

namespace OpenSegment

/-- Nothing is read of the segment. -/
def empty : OpenSegment := ⟨[], []⟩

/-- The segment as it is written. -/
def text (encoded : Char → Bool) (s : OpenSegment) : List Char :=
  s.written.reverse ++ encode encoded s.pending.reverse

/-- The segment after a tab or a line break. -/
def flush (encoded : Char → Bool) (s : OpenSegment) : OpenSegment :=
  ⟨(encode encoded s.pending.reverse).reverse ++ s.written, []⟩

/-- The segment after one of its characters. -/
def push (s : OpenSegment) (c : Char) : OpenSegment :=
  { s with pending := c :: s.pending }

/-- After its first character the path is a drive letter, and nothing follows yet. -/
def completesDrive (kind : SchemeKind) (path : OpenPath) (s : OpenSegment) : Bool :=
  kind == .file && s.pending.isEmpty &&
    (match path.written, s.written with
     | [_], [b, a] => isNormalDrive [a, b]
     | [], [b, a, _] => isNormalDrive [a, b]
     | _, _ => false)

/-- The segment after a drive letter has got its slash: it starts with the second of the characters
written so far. -/
def afterDrive (s : OpenSegment) : OpenSegment :=
  ⟨'/' :: s.written.dropLast, []⟩

end OpenSegment

/-- The path after the first character of a segment was taken into it. -/
def OpenPath.takeFirst (path : OpenPath) (s : OpenSegment) : OpenPath :=
  { path with written := s.written.getLast?.toList ++ path.written }

/-- Writes the segments of a text after a path; `segment` is the present one.  The rest of the text
is what ends the path. -/
def writeSegments (source : PathSource) (kind : SchemeKind) (slashBefore : Bool) :
    List Char → OpenSegment → OpenPath → OpenPath × List Char
  | [], segment, path =>
    (appendSegment kind slashBefore path (segment.text (encodedIn source kind)) false, [])
  | c :: rest, segment, path =>
    if isTabOrBreak c then
      writeSegments source kind slashBefore rest (segment.flush (encodedIn source kind)) path
    else if endsPath source c then
      (appendSegment kind slashBefore path (segment.text (encodedIn source kind)) false, c :: rest)
    else if isSeparator source kind c then
      writeSegments source kind slashBefore rest .empty
        (appendSegment kind slashBefore path (segment.text (encodedIn source kind)) true)
    else if segment.completesDrive kind path then
      writeSegments source kind slashBefore rest (segment.afterDrive.push c)
        (path.takeFirst segment)
    else writeSegments source kind slashBefore rest (segment.push c) path

/-- A path. -/
structure Path where
  text : List Char
  /-- A drive letter was written as its first segment. -/
  drive : Bool

/-- Writes a text after the beginning of a path.  A `file` path starts with exactly one slash. -/
def writePath (source : PathSource) (kind : SchemeKind) (slashBefore : Bool)
    (text start : List Char) : Path × List Char :=
  let (path, rest) := writeSegments source kind slashBefore text .empty ⟨start.reverse, false⟩
  let text := path.written.reverse
  (⟨if kind = .file then '/' :: text.dropWhile (· = '/') else text, path.drive⟩, rest)

/-- Writes a path from its beginning.  Under a special scheme it is never empty. -/
def startPath (source : PathSource) (kind : SchemeKind) (slashBefore : Bool) (text : List Char) :
    Path × List Char :=
  let text := skipBreaks text
  if kind.isSpecial then
    if slashBefore then writePath source kind slashBefore text []
    else
      match text with
      | '/' :: rest => writePath source kind slashBefore rest ['/']
      | '\\' :: rest => writePath source kind slashBefore rest ['/']
      | _ => writePath source kind slashBefore text ['/']
  else
    match text with
    | [] => writePath source kind slashBefore text []
    | '?' :: _ => (⟨[], false⟩, text)
    | '#' :: _ => (⟨[], false⟩, text)
    | '/' :: _ => writePath source kind slashBefore text []
    | _ => writePath source kind slashBefore text ['/']

end RemoteUi.Url
