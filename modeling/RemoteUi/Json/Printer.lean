/-
# RemoteUi.Json.Printer — JSON text on one line, without blanks.

`render` writes members in the order they are stored.  A number that is a double always shows a
point or an exponent, so that it reads back as a double: it is written positionally when its
decimal exponent lies in `-5 .. 15`, and otherwise with one digit before the point and a signed
exponent.  In texts, only the quotation mark, the backslash and the control characters below the
space are escaped.
-/
import RemoteUi.Decimal.Shortest
import RemoteUi.Json.Basic

namespace RemoteUi.Json

/-! ## Numbers -/

/-- Decimal exponents written positionally. -/
structure Span where
  lowest : Int
  highest : Int

/-- The exponents for which a number stays readable without a power of ten. -/
def positional : Span := ⟨-5, 15⟩

/-- `digits * 10 ^ exponent` with a point or a signed exponent. -/
def decimalText (d : Decimal.Digits) : List Char :=
  let digits := (Nat.repr d.digits).toList
  let n : Int := digits.length
  let e : Int := d.exponent + n - 1
  if positional.lowest ≤ e ∧ e ≤ positional.highest then
    if e < 0 then ['0', '.'] ++ List.replicate (-e - 1).toNat '0' ++ digits
    else
      let whole := (e + 1).toNat
      if digits.length ≤ whole then
        digits ++ List.replicate (whole - digits.length) '0' ++ ['.', '0']
      else digits.take whole ++ ['.'] ++ digits.drop whole
  else
    let mantissa := match digits with
      | [c] => [c]
      | c :: cs => c :: '.' :: cs
      | [] => []
    mantissa ++ ['e', if e < 0 then '-' else '+'] ++ (Nat.repr e.natAbs).toList

/-- A finite double with the fewest digits that read back. -/
def doubleText (x : Float) : String :=
  let bits := x.toBits.toNat
  let sign := if Nat.pow 2 63 ≤ bits then ['-'] else []
  let size := bits % Nat.pow 2 63
  String.ofList <| sign ++
    if size = 0 then ['0', '.', '0']
    else decimalText (Decimal.shortest (Decimal.Binary.ofBits size))

/-! ## Texts -/

/-- A hexadecimal digit, in lower case. -/
def hexDigit (n : Nat) : Char :=
  if n < 10 then Char.ofNat (0x30 + n) else Char.ofNat (0x57 + n)

/-- One character as it stands between quotation marks. -/
def escapeChar (c : Char) : List Char :=
  if c = '"' then ['\\', '"']
  else if c = '\\' then ['\\', '\\']
  else if 0x20 ≤ c.toNat then [c]
  else if c.toNat = 0x08 then ['\\', 'b']
  else if c.toNat = 0x09 then ['\\', 't']
  else if c.toNat = 0x0A then ['\\', 'n']
  else if c.toNat = 0x0C then ['\\', 'f']
  else if c.toNat = 0x0D then ['\\', 'r']
  else ['\\', 'u', '0', '0', hexDigit (c.toNat / 16), hexDigit (c.toNat % 16)]

/-- Appends a text between quotation marks. -/
def writeText (s : String) (out : String) : String :=
  (s.toList.foldl (fun out c => (escapeChar c).foldl String.push out) (out.push '"')).push '"'

/-! ## Documents -/

mutual
/-- Appends a document. -/
def write : Json → String → String
  | .null, out => out ++ "null"
  | .bool true, out => out ++ "true"
  | .bool false, out => out ++ "false"
  | .int i, out => out ++ toString i
  | .float x, out => out ++ doubleText x
  | .str s, out => writeText s out
  | .arr items, out => (writeItems items true (out.push '[')).push ']'
  | .obj members, out =>
    (writeMembers members true (out.push (Char.ofNat 0x7B))).push (Char.ofNat 0x7D)

/-- Appends the items of an array, with a comma before each but the first. -/
def writeItems : List Json → Bool → String → String
  | [], _, out => out
  | j :: rest, first, out => writeItems rest false (j.write (if first then out else out.push ','))

/-- Appends the members of an object, with a comma before each but the first. -/
def writeMembers : Members → Bool → String → String
  | [], _, out => out
  | (k, j) :: rest, first, out =>
    writeMembers rest false
      (j.write ((writeText k (if first then out else out.push ',')).push ':'))
end

/-- The text of a document. -/
def render (j : Json) : String :=
  j.write ""

/-- The text of a number, as it stands in a document. -/
def numberText? : Json → Option String
  | .int i => some (toString i)
  | .float x => some (doubleText x)
  | _ => none

end RemoteUi.Json
