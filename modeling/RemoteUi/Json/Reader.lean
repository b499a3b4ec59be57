/-
# RemoteUi.Json.Reader — reading JSON text from octets.

The reader goes through the octets once, from left to right, and stops at the first fault: the
text is malformed, it ends too early, or, where a caller looks at values while they are read, a
value is not what is wanted there.  Containers nest at most `maxDepth` deep.  `foldMembers` and
`foldItems` hand each member or item to the caller before the rest of the container has been
looked at; `value` is built from them by recursion on the depth that is left.

A number with a point or an exponent is scaled by one multiplication or division of doubles, so
the double it denotes may differ from the nearest one in the last place.
-/
import RemoteUi.Json.Mismatch

namespace RemoteUi.Json

/-- Why a text could not be read. -/
inductive Fault where
  | malformed
  | truncated
  | mismatch (cause : Mismatch)

/-- Octets still to be read. -/
abbrev Octets := List UInt8

namespace Reader

/-! ## Octets -/

/-- Containers may nest this deep. -/
def maxDepth : Nat := 127

/-- Space, line feed, carriage return and tab. -/
def isSpace (c : UInt8) : Bool :=
  c == 0x20 || c == 0x0A || c == 0x0D || c == 0x09

/-- The rest of the input from its first octet that is not a space. -/
def skipSpaces (input : Octets) : Octets :=
  input.dropWhile isSpace

/-- An ASCII digit. -/
def isDigit (c : UInt8) : Bool :=
  0x30 ≤ c && c ≤ 0x39

/-- The input starts with a digit. -/
def startsWithDigit : Octets → Bool
  | c :: _ => isDigit c
  | [] => false

/-- The value of a hexadecimal digit. -/
def hexValue? (c : UInt8) : Option Nat :=
  if 0x30 ≤ c ∧ c ≤ 0x39 then some (c.toNat - 0x30)
  else if 0x61 ≤ c ∧ c ≤ 0x66 then some (c.toNat - 0x57)
  else if 0x41 ≤ c ∧ c ≤ 0x46 then some (c.toNat - 0x37)
  else none

/-- The value of four hexadecimal digits. -/
def hex4? (a b c d : UInt8) : Option Nat :=
  match hexValue? a, hexValue? b, hexValue? c, hexValue? d with
  | some a, some b, some c, some d => some (((a * 16 + b) * 16 + c) * 16 + d)
  | _, _, _, _ => none

/-- The octet a short escape stands for. -/
def shortEscape? (c : UInt8) : Option UInt8 :=
  if c = 0x22 ∨ c = 0x5C ∨ c = 0x2F then some c
  else if c = 0x62 then some 0x08
  else if c = 0x66 then some 0x0C
  else if c = 0x6E then some 0x0A
  else if c = 0x72 then some 0x0D
  else if c = 0x74 then some 0x09
  else none

/-! ## Texts -/

/-- The code point of a surrogate pair. -/
def pairValue (high low : Nat) : Nat :=
  0x10000 + (high - 0xD800) * 0x400 + (low - 0xDC00)

/-- Pushes the octets of a code point on those read so far, which are kept in reverse. -/
def pushCodePoint (n : Nat) (acc : Octets) : Octets :=
  (String.utf8EncodeChar (Char.ofNat n)).reverse ++ acc

/-- Reads the octets of a text up to its closing quotation mark; `acc` holds those before, in
reverse. -/
def textOctets : Octets → Octets → Except Fault (Octets × Octets)
  | [], _ => .error .truncated
  | c :: rest, acc =>
    if c = 0x22 then .ok (acc.reverse, rest)
    else if c = 0x5C then
      match rest with
      | [] => .error .truncated
      | e :: rest =>
        if e = 0x75 then
          match rest with
          | a :: b :: c :: d :: rest =>
            match hex4? a b c d with
            | none => .error .malformed
            | some n =>
              if 0xDC00 ≤ n ∧ n ≤ 0xDFFF then .error .malformed
              else if 0xD800 ≤ n ∧ n ≤ 0xDBFF then
                match rest with
                | [] => .error .truncated
                | e :: rest =>
                  if e ≠ 0x5C then .error .malformed
                  else
                    match rest with
                    | [] => .error .truncated
                    | u :: rest =>
                      if u ≠ 0x75 then .error .malformed
                      else
                        match rest with
                        | a :: b :: c :: d :: rest =>
                          match hex4? a b c d with
                          | none => .error .malformed
                          | some m =>
                            if 0xDC00 ≤ m ∧ m ≤ 0xDFFF then
                              textOctets rest (pushCodePoint (pairValue n m) acc)
                            else .error .malformed
                        | _ => .error .truncated
              else textOctets rest (pushCodePoint n acc)
          | _ => .error .truncated
        else
          match shortEscape? e with
          | some b => textOctets rest (b :: acc)
          | none => .error .malformed
    else if c < 0x20 then .error .malformed
    else textOctets rest (c :: acc)

/-- Reads a text from just after its opening quotation mark. -/
def text (input : Octets) : Except Fault (String × Octets) :=
  match textOctets input [] with
  | .error e => .error e
  | .ok (octets, rest) =>
    match String.fromUTF8? ⟨octets.toArray⟩ with
    | some s => .ok (s, rest)
    | none => .error .malformed

/-! ## Numbers -/

/-- The power of ten nearest to `10 ^ n`. -/
def powerOfTen (n : Nat) : Float :=
  Float.ofScientific 1 false n

/-- `x / 10 ^ n`, by steps of at most `10 ^ 308`. -/
def divideByPower (x : Float) (n : Nat) : Float :=
  if n ≤ 308 then x / powerOfTen n
  else if x == 0 then x
  else divideByPower (x / powerOfTen 308) (n - 308)
termination_by n
decreasing_by omega

/-- The double for `significand * 10 ^ exponent`; a magnitude beyond the doubles is refused. -/
def scale (negative : Bool) (significand : Nat) (exponent : Int) : Except Fault Json :=
  let x := significand.toUInt64.toFloat
  let size : Option Float :=
    match exponent with
    | .ofNat n =>
      if n ≤ 308 then
        let y := x * powerOfTen n
        if y.isInf then none else some y
      else if x == 0 then some x
      else none
    | .negSucc n => some (divideByPower x (n + 1))
  match size with
  | none => .error .malformed
  | some y => .ok (.float (if negative then -y else y))

/-- Reads digits as long as the number fits 64 bits: the number, how many, and the rest. -/
def significand : Octets → Nat → Nat → Nat × Nat × Octets
  | [], n, count => (n, count, [])
  | c :: rest, n, count =>
    if isDigit c then
      let m := 10 * n + (c.toNat - 0x30)
      if m < Nat.pow 2 64 then significand rest m (count + 1) else (n, count, c :: rest)
    else (n, count, c :: rest)

/-- Passes over digits: how many, and the rest. -/
def passDigits : Octets → Nat → Nat × Octets
  | [], count => (count, [])
  | c :: rest, count => if isDigit c then passDigits rest (count + 1) else (count, c :: rest)

/-- Reads the digits of an exponent.  One that no double can have is cut off at a bound. -/
def exponentDigits : Octets → Nat → Nat × Octets
  | [], n => (n, [])
  | c :: rest, n =>
    if isDigit c then exponentDigits rest (min (10 * n + (c.toNat - 0x30)) (Nat.pow 10 10))
    else (n, c :: rest)

/-- Reads an exponent from just after its letter. -/
def exponentPart (negative : Bool) (n : Nat) (start : Int) (input : Octets) :
    Except Fault (Json × Octets) :=
  let (down, input) := match input with
    | 0x2B :: rest => (false, rest)
    | 0x2D :: rest => (true, rest)
    | _ => (false, input)
  match input with
  | [] => .error .truncated
  | c :: _ =>
    if isDigit c then
      let (e, rest) := exponentDigits input 0
      (scale negative n (if down then start - e else start + e)).map fun j => (j, rest)
    else .error .malformed

/-- Ends a number whose digits are read: an exponent may follow. -/
def afterDigits (negative : Bool) (n : Nat) (exponent : Int) (input : Octets) :
    Except Fault (Json × Octets) :=
  match input with
  | 0x65 :: rest => exponentPart negative n exponent rest
  | 0x45 :: rest => exponentPart negative n exponent rest
  | _ => (scale negative n exponent).map fun j => (j, input)

/-- Reads the places after a point.  Those that no longer fit 64 bits are passed over. -/
def places (negative : Bool) (n : Nat) (exponent : Int) (input : Octets) :
    Except Fault (Json × Octets) :=
  let (m, count, rest) := significand input n 0
  if startsWithDigit rest then
    afterDigits negative m (exponent - count) (passDigits rest 0).2
  else if count = 0 then
    match rest with
    | [] => .error .truncated
    | _ => .error .malformed
  else afterDigits negative m (exponent - count) rest

/-- The integer read, unless a point or an exponent follows.  Minus zero, and a negative number
below the signed integers, are doubles. -/
def afterInteger (negative : Bool) (n : Nat) (input : Octets) : Except Fault (Json × Octets) :=
  match input with
  | 0x2E :: rest => places negative n 0 rest
  | 0x65 :: rest => exponentPart negative n 0 rest
  | 0x45 :: rest => exponentPart negative n 0 rest
  | _ =>
    if !negative then .ok (.int n, input)
    else if n = 0 ∨ Nat.pow 2 63 < n then .ok (.float (-(n.toUInt64.toFloat)), input)
    else .ok (.int (-(n : Int)), input)

/-- Reads a number from after its sign. -/
def number (negative : Bool) (input : Octets) : Except Fault (Json × Octets) :=
  match input with
  | [] => .error .truncated
  | c :: rest =>
    if c = 0x30 then
      if startsWithDigit rest then .error .malformed else afterInteger negative 0 rest
    else if isDigit c then
      let (n, _, rest) := significand input 0 0
      if startsWithDigit rest then
        let (count, rest) := passDigits rest 0
        match rest with
        | 0x2E :: rest => places negative n count rest
        | _ => afterDigits negative n count rest
      else afterInteger negative n rest
    else .error .malformed

/-! ## Containers -/

/-- Reads the rest of a literal word. -/
def word (j : Json) : Octets → Octets → Except Fault (Json × Octets)
  | [], rest => .ok (j, rest)
  | _ :: _, [] => .error .truncated
  | w :: ws, c :: rest => if c = w then word j ws rest else .error .malformed

/-- Goes through the items of an array from just after its bracket.  `step` reads one item. -/
def foldItems {σ : Type} (step : σ → Octets → Except Fault (σ × Octets)) :
    Nat → Bool → σ → Octets → Except Fault (σ × Octets)
  | 0, _, _, _ => .error .truncated
  | n + 1, first, s, input =>
    match skipSpaces input with
    | [] => .error .truncated
    | c :: rest =>
      if c = 0x5D then .ok (s, rest)
      else if first then
        match step s (c :: rest) with
        | .error e => .error e
        | .ok (s, rest) => foldItems step n false s rest
      else if c = 0x2C then
        match skipSpaces rest with
        | [] => .error .truncated
        | c :: rest =>
          if c = 0x5D then .error .malformed
          else
            match step s (c :: rest) with
            | .error e => .error e
            | .ok (s, rest) => foldItems step n false s rest
      else .error .malformed

/-- Passes over the colon between a key and its value. -/
def colon (input : Octets) : Except Fault Octets :=
  match skipSpaces input with
  | [] => .error .truncated
  | c :: rest => if c = 0x3A then .ok rest else .error .malformed

/-- Goes through the members of an object from just after its brace.  `step` is given the key of
one member, and reads the colon and the value. -/
def foldMembers {σ : Type} (step : σ → String → Octets → Except Fault (σ × Octets)) :
    Nat → Bool → σ → Octets → Except Fault (σ × Octets)
  | 0, _, _, _ => .error .truncated
  | n + 1, first, s, input =>
    match skipSpaces input with
    | [] => .error .truncated
    | c :: rest =>
      if c = 0x7D then .ok (s, rest)
      else if first then
        if c = 0x22 then
          match text rest with
          | .error e => .error e
          | .ok (k, rest) =>
            match step s k rest with
            | .error e => .error e
            | .ok (s, rest) => foldMembers step n false s rest
        else .error .malformed
      else if c = 0x2C then
        match skipSpaces rest with
        | [] => .error .truncated
        | c :: rest =>
          if c = 0x22 then
            match text rest with
            | .error e => .error e
            | .ok (k, rest) =>
              match step s k rest with
              | .error e => .error e
              | .ok (s, rest) => foldMembers step n false s rest
          else .error .malformed
      else .error .malformed

/-- Reads a value that is not a container. -/
def scalar (c : UInt8) (rest : Octets) : Except Fault (Json × Octets) :=
  if c = 0x6E then word .null [0x75, 0x6C, 0x6C] rest
  else if c = 0x74 then word (.bool true) [0x72, 0x75, 0x65] rest
  else if c = 0x66 then word (.bool false) [0x61, 0x6C, 0x73, 0x65] rest
  else if c = 0x2D then number true rest
  else if isDigit c then number false (c :: rest)
  else if c = 0x22 then (text rest).map fun (s, rest) => (.str s, rest)
  else .error .malformed

/-- Reads a value, spaces before it included, in which containers nest at most `depth` deep.
No container has more than `bound` items. -/
def value (bound : Nat) : Nat → Octets → Except Fault (Json × Octets)
  | depth, input =>
    match skipSpaces input with
    | [] => .error .truncated
    | c :: rest =>
      if c = 0x5B then
        match depth with
        | 0 => .error .malformed
        | depth + 1 =>
          let step := fun (acc : List Json) input =>
            (value bound depth input).map fun (j, rest) => (j :: acc, rest)
          (foldItems step bound true [] rest).map fun (acc, rest) => (.arr acc.reverse, rest)
      else if c = 0x7B then
        match depth with
        | 0 => .error .malformed
        | depth + 1 =>
          let step := fun (acc : Members) k input =>
            match colon input with
            | .error e => .error e
            | .ok input => (value bound depth input).map fun (j, rest) => ((k, j) :: acc, rest)
          (foldMembers step bound true [] rest).map fun (acc, rest) => (.obj acc.reverse, rest)
      else scalar c rest

/-- Nothing but spaces may follow. -/
def finish {α : Type} (a : α) (rest : Octets) : Except Fault α :=
  match skipSpaces rest with
  | [] => .ok a
  | _ => .error .malformed

end Reader

/-- Reads a document that is the whole input. -/
def parse (input : Octets) : Except Fault Json :=
  match Reader.value (input.length + 1) Reader.maxDepth input with
  | .error e => .error e
  | .ok (j, rest) => Reader.finish j rest

/-- The document of a text, if it is well formed. -/
def ofText? (s : String) : Option Json :=
  (parse s.toUTF8.toList).toOption

end RemoteUi.Json
