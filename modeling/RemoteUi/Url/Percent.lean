/-
# RemoteUi.Url.Percent — percent-encoding of the parts of an address.

An octet that may not stand in a part of an address is written as a percent sign and two upper-case
hexadecimal digits.  Which ASCII characters are written that way depends on the part; a character
outside ASCII always is, octet by octet of its UTF-8 form.  `encode` is total and `decodeOctets`
undoes it: a percent sign without two digits after it stands for itself.
-/

namespace RemoteUi.Url

/-! ## Sets of characters -/

/-- Control characters are encoded in every part. -/
def inControls (c : Char) : Bool :=
  c.toNat < 0x20 || 0x7F ≤ c.toNat

/-- Encoded in a fragment. -/
def inFragment (c : Char) : Bool :=
  inControls c || c == ' ' || c == '"' || c == '<' || c == '>' || c.toNat == 0x60

/-- Encoded in a path. -/
def inPath (c : Char) : Bool :=
  inFragment c || c == '#' || c == '?' || c == '\x7b' || c == '\x7d'

/-- Encoded in a user name or password. -/
def inUserinfo (c : Char) : Bool :=
  inPath c || c == '/' || c == ':' || c == ';' || c == '=' || c == '@' || c == '[' || c == '\\' ||
    c == ']' || c == '^' || c == '|'

/-- Encoded in a path segment that is added as a whole. -/
def inSegment (c : Char) : Bool :=
  inPath c || c == '/' || c == '%'

/-- Encoded in a path segment of an address whose scheme takes the backslash for a slash. -/
def inSpecialSegment (c : Char) : Bool :=
  inSegment c || c == '\\'

/-- Encoded in a query. -/
def inQuery (c : Char) : Bool :=
  inControls c || c == ' ' || c == '"' || c == '#' || c == '<' || c == '>'

/-- Encoded in a query of an address with a special scheme. -/
def inSpecialQuery (c : Char) : Bool :=
  inQuery c || c.toNat == 0x27

/-- A character of a form's query that stands for itself. -/
def isFormSafe (c : Char) : Bool :=
  c.isAlphanum || c == '*' || c == '-' || c == '.' || c == '_'

/-! ## Encoding and decoding -/

/-- An upper-case hexadecimal digit. -/
def upperHex (n : Nat) : Char :=
  if n < 10 then Char.ofNat (0x30 + n) else Char.ofNat (0x37 + n)

/-- An octet as a percent sign and two digits. -/
def percentOctet (b : UInt8) : List Char :=
  ['%', upperHex (b.toNat / 16), upperHex (b.toNat % 16)]

/-- A character as its octets, each percent-encoded. -/
def percentChar (c : Char) : List Char :=
  (String.utf8EncodeChar c).flatMap percentOctet

/-- A text with the characters of a set percent-encoded. -/
def encode (encoded : Char → Bool) (cs : List Char) : List Char :=
  cs.flatMap fun c => if encoded c then percentChar c else [c]

/-- The value of a hexadecimal digit. -/
def hexValue? (c : Char) : Option Nat :=
  if '0' ≤ c ∧ c ≤ '9' then some (c.toNat - 0x30)
  else if 'a' ≤ c ∧ c ≤ 'f' then some (c.toNat - 0x57)
  else if 'A' ≤ c ∧ c ≤ 'F' then some (c.toNat - 0x37)
  else none

/-- The octets of a text, each percent-encoded octet taken for itself. -/
def decodeOctets : List Char → List UInt8
  | [] => []
  | '%' :: a :: b :: rest =>
    match hexValue? a, hexValue? b with
    | some x, some y => UInt8.ofNat (16 * x + y) :: decodeOctets rest
    | _, _ => 0x25 :: decodeOctets (a :: b :: rest)
  | c :: rest => String.utf8EncodeChar c ++ decodeOctets rest

/-! ## Forms -/

/-- A name or a value in a form's query: a space is a plus sign. -/
def formEncode (s : String) : List Char :=
  s.toList.flatMap fun c =>
    if isFormSafe c then [c] else if c = ' ' then ['+'] else percentChar c

/-- Adds a pair to a form's query. -/
def appendPair (query name value : String) : String :=
  let pair := String.ofList (formEncode name ++ '=' :: formEncode value)
  if query = "" then pair else query ++ "&" ++ pair

end RemoteUi.Url
