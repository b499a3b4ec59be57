/-
# RemoteUi.Url.Host — the host of an address.

A host is a domain name, an IPv4 address or an IPv6 address.  Under a special scheme a name is
percent-decoded, lowered and checked, and one whose last label is a number is an IPv4 address in
one of its many spellings.  Under any other scheme the name is kept as it is written.

An international name is lowered in ASCII and written label by label in Punycode.  A label that is
given in Punycode is read back, and refused if it could not be written.
-/
import RemoteUi.Url.Label
import RemoteUi.Url.Percent

namespace RemoteUi.Url

/-- Why a text is not an address. -/
inductive ParseError where
  | relativeWithoutBase
  | emptyHost
  | badDomain
  | badPort
  | badIpv4
  | badIpv6
  | badDomainCharacter
  deriving DecidableEq

/-- The wording of an address fault. -/
def ParseError.message : ParseError → String
  | .relativeWithoutBase => "relative URL without a base"
  | .emptyHost => "empty host"
  | .badDomain => "invalid international domain name"
  | .badPort => "invalid port number"
  | .badIpv4 => "invalid IPv4 address"
  | .badIpv6 => "invalid IPv6 address"
  | .badDomainCharacter => "invalid domain character"

/-- The host of an address.  An IPv6 address is its eight pieces of sixteen bits. -/
inductive Host where
  | domain (name : List Char)
  | ipv4 (address : Nat)
  | ipv6 (pieces : List Nat)

/-! ## Pieces of a text -/

/-- The pieces of a text between occurrences of a separator; there is at least one. -/
def splitAt (sep : Char) : List Char → List (List Char)
  | [] => [[]]
  | c :: rest =>
    if c = sep then [] :: splitAt sep rest
    else
      match splitAt sep rest with
      | piece :: pieces => (c :: piece) :: pieces
      | [] => [[c]]

/-- The number that digits of a base name, read no further than the digit with which it reaches
2 ^ 32, which is too large for every use of it. -/
def ofHexDigits (base : Nat) (cs : List Char) : Nat :=
  cs.foldl (fun n c => if n < Nat.pow 2 32 then base * n + (hexValue? c).getD 0 else n) 0

/-! ## IPv4 -/

/-- A part of an IPv4 address: decimal, octal after `0`, hexadecimal after `0x`. -/
def ipv4Part? (cs : List Char) : Option Nat :=
  let (base, digits) := match cs with
    | '0' :: 'x' :: rest => (16, rest)
    | '0' :: 'X' :: rest => (16, rest)
    | '0' :: c :: rest => (8, c :: rest)
    | _ => (10, cs)
  if cs = [] then none
  else if digits.all (fun c => (hexValue? c).any (· < base)) then some (ofHexDigits base digits)
  else none

/-- The last label is a number, so the name can only be an IPv4 address. -/
def endsInNumber (name : List Char) : Bool :=
  let labels := (splitAt '.' name).reverse
  let last := match labels with
    | [] :: previous :: _ => some previous
    | [[]] => none
    | label :: _ => some label
    | [] => none
  match last with
  | none => false
  | some label => (label ≠ [] && label.all Char.isDigit) || (ipv4Part? label).isSome

/-- An IPv4 address from its parts: all but the last are octets, and the last fills the rest. -/
def ipv4OfParts? (parts : List Nat) : Option Nat :=
  match parts.reverse with
  | [] => none
  | last :: before =>
    let octets := before.reverse
    if 4 < parts.length ∨ octets.any (255 < ·) ∨ Nat.pow 2 (8 * (4 - octets.length)) ≤ last then none
    else
      let high := octets.foldl (fun n o => 256 * n + o) 0
      some (high * Nat.pow 2 (8 * (4 - octets.length)) + last)

/-- Reads an IPv4 address; one dot may end it. -/
def ipv4? (name : List Char) : Option Nat :=
  let labels := splitAt '.' name
  let labels := match labels.reverse with
    | [] :: rest => rest.reverse
    | _ => labels
  if 4 < labels.length then none else (labels.mapM ipv4Part?).bind ipv4OfParts?

/-- An IPv4 address as four octets. -/
def ipv4Text (n : Nat) : String :=
  String.intercalate "." <|
    [n / Nat.pow 2 24 % 256, n / Nat.pow 2 16 % 256, n / Nat.pow 2 8 % 256, n % 256].map toString

/-! ## IPv6 -/

/-- An octet of an IPv4 address that ends an IPv6 address: no leading zeros. -/
def strictOctet? (cs : List Char) : Option Nat :=
  let n := ofHexDigits 10 cs
  if cs ≠ [] ∧ cs.all Char.isDigit ∧ (cs.length = 1 ∨ cs.head? ≠ some '0') ∧ n ≤ 255 then some n
  else none

/-- The two pieces that an IPv4 address stands for. -/
def embeddedIpv4? (cs : List Char) : Option (List Nat) :=
  match (splitAt '.' cs).mapM strictOctet? with
  | some [a, b, c, d] => some [256 * a + b, 256 * c + d]
  | _ => none

/-- Puts the zeros that a double colon at `gap` stands for. -/
def expand? (pieces : List Nat) : Option Nat → Option (List Nat)
  | none => if pieces.length = 8 then some pieces else none
  | some gap =>
    some (pieces.take gap ++ List.replicate (8 - pieces.length) 0 ++ pieces.drop gap)

/-- Reads the pieces of an IPv6 address; `gap` is where the double colon stood. -/
def ipv6Pieces : Nat → List Char → List Nat → Option Nat → Option (List Nat)
  | 0, _, _, _ => none
  | _ + 1, [], pieces, gap => expand? pieces gap
  | fuel + 1, c :: rest, pieces, gap =>
    if pieces.length = 8 then none
    else if c = ':' then
      if gap.isSome then none
      else ipv6Pieces fuel rest (pieces ++ [0]) (some (pieces.length + 1))
    else
      let digits := ((c :: rest).take 4).takeWhile fun c => (hexValue? c).isSome
      let value := ofHexDigits 16 digits
      match (c :: rest).drop digits.length with
      | [] => ipv6Pieces fuel [] (pieces ++ [value]) gap
      | '.' :: _ =>
        if digits = [] ∨ 6 < pieces.length then none
        else (embeddedIpv4? (c :: rest)).bind fun two => expand? (pieces ++ two) gap
      | ':' :: after => if after = [] then none else ipv6Pieces fuel after (pieces ++ [value]) gap
      | _ => none

/-- Reads an IPv6 address without its brackets. -/
def ipv6? (cs : List Char) : Option (List Nat) :=
  match cs with
  | ':' :: ':' :: rest => ipv6Pieces (cs.length + 1) rest [0] (some 1)
  | ':' :: _ => none
  | _ => if cs.length < 2 then none else ipv6Pieces (cs.length + 1) cs [] none

/-- The first longest run of zeros: its start and its length. -/
def longestZeros : List Nat → Nat → Nat × Nat
  | [], _ => (0, 0)
  | p :: rest, i =>
    let run := ((p :: rest).takeWhile (· = 0)).length
    let (start, best) := longestZeros rest (i + 1)
    if best ≤ run then (i, run) else (start, best)

/-- A piece in hexadecimal. -/
def pieceText (n : Nat) : String :=
  String.ofList (Nat.toDigits 16 n)

/-- An IPv6 address in brackets; its longest run of at least two zeros is a double colon. -/
def ipv6Text (pieces : List Nat) : String :=
  let join := fun ps => String.intercalate ":" (List.map pieceText ps)
  let (start, run) := longestZeros pieces 0
  if run < 2 then "[" ++ join pieces ++ "]"
  else "[" ++ join (pieces.take start) ++ "::" ++ join (pieces.drop (start + run)) ++ "]"

/-! ## Names -/

/-- Not allowed in a domain name. -/
def isForbiddenInDomain (c : Char) : Bool :=
  c.toNat ≤ 0x20 || c.toNat == 0x7F ||
    ['%', '#', '/', ':', '<', '>', '?', '@', '[', '\\', ']', '^', '|'].contains c

/-- Not allowed in a host under a scheme that is not special. -/
def isForbiddenInHost (c : Char) : Bool :=
  c.toNat == 0 || c == '\t' || c == '\n' || c == '\r' || c == ' ' ||
    ['#', '/', ':', '<', '>', '?', '@', '[', '\\', ']', '^', '|'].contains c

/-- The ASCII form of a domain name. -/
def asciiDomain? (octets : List UInt8) : Option (List Char) :=
  match String.fromUTF8? ⟨octets.toArray⟩ with
  | none => none
  | some s =>
    let name := s.toList.map Char.toLower
    if name.any isForbiddenInDomain then none
    else
      match (splitAt '.' name).mapM readLabel? with
      | none => none
      | some labels =>
        if directionsAgree labels then some (List.intercalate ['.'] (labels.map asciiLabel))
        else none

/-- Reads an IPv6 address in brackets. -/
def bracketed (cs : List Char) : Except ParseError Host :=
  match cs.reverse with
  | ']' :: inner =>
    match ipv6? (inner.reverse.drop 1) with
    | some pieces => .ok (.ipv6 pieces)
    | none => .error .badIpv6
  | _ => .error .badIpv6

/-- Reads a host under a special scheme. -/
def Host.parse (cs : List Char) : Except ParseError Host :=
  if cs.head? = some '[' then bracketed cs
  else
    match asciiDomain? (decodeOctets cs) with
    | none => .error .badDomain
    | some name =>
      if name = [] then .error .emptyHost
      else if endsInNumber name then
        match ipv4? name with
        | some n => .ok (.ipv4 n)
        | none => .error .badIpv4
      else .ok (.domain name)

/-- Reads a host under a scheme that is not special. -/
def Host.parseRaw (cs : List Char) : Except ParseError Host :=
  if cs.head? = some '[' then bracketed cs
  else if cs.any isForbiddenInHost then .error .badDomainCharacter
  else .ok (.domain (encode inControls cs))

/-- The text of a host in an address. -/
def Host.text : Host → String
  | .domain name => String.ofList name
  | .ipv4 n => ipv4Text n
  | .ipv6 pieces => ipv6Text pieces

end RemoteUi.Url
