/-
# RemoteUi.Url.Punycode — international labels in ASCII.

A label with characters outside ASCII is written as its ASCII characters, a hyphen if there are
any, and the other characters as a sequence of variable-length integers that say which code point
goes where.
-/

namespace RemoteUi.Url.Punycode

/-- The digit for a value below 36. -/
def digit (n : Nat) : Char :=
  if n < 26 then Char.ofNat (0x61 + n) else Char.ofNat (0x30 + (n - 26))

/-- The value of a digit. -/
def digitValue? (c : Char) : Option Nat :=
  if 'a' ≤ c ∧ c ≤ 'z' then some (c.toNat - 0x61)
  else if '0' ≤ c ∧ c ≤ '9' then some (c.toNat - 0x30 + 26)
  else none

/-- Divides the difference by 35 until it is small: the quotient and the steps taken. -/
def reduce : Nat → Nat → Nat → Nat × Nat
  | 0, delta, k => (delta, k)
  | fuel + 1, delta, k => if 455 < delta then reduce fuel (delta / 35) (k + 36) else (delta, k)

/-- The bias for the next integer. -/
def adapt (delta points : Nat) (first : Bool) : Nat :=
  let delta := if first then delta / 700 else delta / 2
  let (delta, k) := reduce delta (delta + delta / points) 0
  k + 36 * delta / (delta + 38)

/-- The threshold of the digit at place `k`. -/
def threshold (k bias : Nat) : Nat :=
  min 26 (max 1 (k - bias))

/-- A variable-length integer. -/
def integer : Nat → Nat → Nat → Nat → List Char
  | 0, q, _, _ => [digit q]
  | fuel + 1, q, k, bias =>
    let t := threshold k bias
    if q < t then [digit q]
    else digit (t + (q - t) % (36 - t)) :: integer fuel ((q - t) / (36 - t)) (k + 36) bias

/-- What is carried from one character to the next while encoding. -/
structure State where
  delta : Nat
  bias : Nat
  handled : Nat
  out : List Char

/-- Writes an integer for each occurrence of the code point `m`. -/
def occurrences (m basics : Nat) : List Char → State → State
  | [], s => s
  | c :: rest, s =>
    if c.toNat < m then occurrences m basics rest { s with delta := s.delta + 1 }
    else if c.toNat = m then
      occurrences m basics rest
        { delta := 0, bias := adapt s.delta (s.handled + 1) (s.handled = basics),
          handled := s.handled + 1, out := s.out ++ integer s.delta s.delta 36 s.bias }
    else occurrences m basics rest s

/-- Goes through the code points from `n` on in ascending order. -/
def codePoints (label : List Char) (basics : Nat) : Nat → Nat → State → State
  | 0, _, s => s
  | fuel + 1, n, s =>
    match (label.map Char.toNat).filter (n ≤ ·) with
    | [] => s
    | p :: ps =>
      let m := ps.foldl min p
      let s := occurrences m basics label { s with delta := s.delta + (m - n) * (s.handled + 1) }
      codePoints label basics fuel (m + 1) { s with delta := s.delta + 1 }

/-- The ASCII form of a label, without its mark. -/
def encode (label : List Char) : List Char :=
  let ascii := label.filter (·.toNat < 0x80)
  let start := if ascii = [] then [] else ascii ++ ['-']
  (codePoints label ascii.length label.length 0x80 ⟨0, 72, ascii.length, start⟩).out

/-- The integers of the reader have 32 bits. -/
def wordBound : Nat := Nat.pow 2 32

/-- Reads a variable-length integer on top of `i`. -/
def readInteger : List Char → Nat → Nat → Nat → Nat → Option (Nat × List Char)
  | [], _, _, _, _ => none
  | c :: rest, i, w, k, bias =>
    match digitValue? c with
    | none => none
    | some d =>
      let i := i + d * w
      let t := threshold k bias
      if wordBound ≤ i then none
      else if d < t then some (i, rest)
      else if wordBound ≤ w * (36 - t) then none
      else readInteger rest i (w * (36 - t)) (k + 36) bias

/-- Inserts the code points that the integers name. -/
def insertions : Nat → List Char → Nat → Nat → Nat → List Char → Option (List Char)
  | 0, _, _, _, _, _ => none
  | _ + 1, [], _, _, _, out => some out
  | fuel + 1, cs, n, i, bias, out =>
    match readInteger cs i 1 36 bias with
    | none => none
    | some (i', rest) =>
      let points := out.length + 1
      let n := n + i' / points
      let place := i' % points
      if h : n.isValidChar then
        insertions fuel rest n (place + 1) (adapt (i' - i) points (i = 0))
          (out.take place ++ Char.ofNatAux n h :: out.drop place)
      else none

/-- The label of an ASCII form without its mark.  The hyphen after the ASCII characters is left out
when there are none. -/
def decode (cs : List Char) : Option (List Char) :=
  let tail := (cs.reverse.takeWhile (· ≠ '-')).reverse
  let basics := cs.take (cs.length - tail.length - 1)
  if tail.length < cs.length ∧ basics = [] then none
  else insertions (cs.length + 1) tail 0x80 0 72 basics

end RemoteUi.Url.Punycode
