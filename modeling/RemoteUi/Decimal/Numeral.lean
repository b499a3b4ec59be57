/-
# RemoteUi.Decimal.Numeral — numbers as people type them.

Three readings of a whole text, none of which skips blanks: a signed 64-bit integer, an unsigned
64-bit integer, and a double-precision number.  The last takes a sign, digits with at most one
point (digits on one side are enough), an optional exponent, and the words `inf`, `infinity` and
`nan` in any case; it rounds to the nearest double.
-/

namespace RemoteUi.Decimal

/-- The value of a digit. -/
def digitValue (c : Char) : Nat :=
  c.toNat - '0'.toNat

/-- The number a list of digits names, read no further than the digit with which it reaches
`bound`: below the bound it is exact, and it is below the bound only if the number is. -/
def ofDigits (bound : Nat) (cs : List Char) : Nat :=
  cs.foldl (fun n c => if n < bound then 10 * n + digitValue c else n) 0

/-- The number a text of one or more digits names, read up to `bound`. -/
def natural? (bound : Nat) (cs : List Char) : Option Nat :=
  if cs ≠ [] ∧ cs.all Char.isDigit then some (ofDigits bound cs) else none

/-- A text without its sign, and whether that sign is a minus. -/
def unsigned : List Char → Bool × List Char
  | '-' :: cs => (true, cs)
  | '+' :: cs => (false, cs)
  | cs => (false, cs)

/-- The signed integer of at most 64 bits that the text names. -/
def int64? (s : String) : Option Int :=
  let (negative, cs) := unsigned s.toList
  match natural? (Nat.pow 2 64) cs with
  | none => none
  | some n =>
    let i : Int := if negative then -n else n
    if -(Nat.pow 2 63) ≤ i ∧ i < Nat.pow 2 63 then some i else none

/-- The natural number of at most 64 bits that the text names; a minus sign is refused. -/
def nat64? (s : String) : Option Nat :=
  match unsigned s.toList with
  | (true, _) => none
  | (false, cs) =>
    match natural? (Nat.pow 2 64) cs with
    | none => none
    | some n => if n < Nat.pow 2 64 then some n else none

/-! ## Doubles -/

/-- The double nearest to `n * 10 ^ e`, where `n` has a number of digits.  Exponents far beyond the
range of a double are answered without computing the power. -/
def nearestDouble (n : Nat) (digits : Nat) (e : Int) : Float :=
  if n = 0 then 0
  else if 400 < e then 1 / 0
  else if e + digits < -400 then 0
  else if e < 0 then Float.ofScientific n true e.natAbs
  else Float.ofScientific n false e.natAbs

/-- Significant digits that place a number between two neighbouring doubles: the middle between
them has no more than 767, so of what follows it counts only whether it is zero. -/
def enoughDigits : Nat := 800

/-- The double nearest to digits times a power of ten.  One more digit stands for all that follow
the first eight hundred. -/
def ofSignificant (digits : List Char) (e : Int) : Float :=
  let digits := digits.dropWhile (· == '0')
  let kept := digits.take enoughDigits
  let rest := digits.drop enoughDigits
  let n := kept.foldl (fun n c => 10 * n + digitValue c) 0
  if rest = [] then nearestDouble n kept.length e
  else
    let last := if rest.all (· == '0') then 0 else 1
    nearestDouble (10 * n + last) (kept.length + 1) (e + (rest.length - 1 : Nat))

/-- An exponent is read no further than the digit with which it reaches this.  It is beyond the
range of a double by then, unless some tens of thousands of digits make up for it. -/
def exponentBound : Nat := Nat.pow 2 16

/-- The exponent part of a numeral: nothing, or `e` with an optional sign and digits. -/
def exponentPart? : List Char → Option Int
  | [] => some 0
  | c :: cs =>
    if c = 'e' ∨ c = 'E' then
      let (negative, ds) := unsigned cs
      (natural? exponentBound ds).map fun n => if negative then -(n : Int) else n
    else none

/-- The magnitude a numeral names. -/
def magnitude? (cs : List Char) : Option Float :=
  let whole := cs.takeWhile Char.isDigit
  let rest := cs.dropWhile Char.isDigit
  let (fraction, rest) := match rest with
    | '.' :: r => (r.takeWhile Char.isDigit, r.dropWhile Char.isDigit)
    | r => ([], r)
  if whole = [] ∧ fraction = [] then none
  else
    (exponentPart? rest).map fun e => ofSignificant (whole ++ fraction) (e - fraction.length)

/-- The double-precision number that the text names. -/
def double? (s : String) : Option Float :=
  let (negative, cs) := unsigned s.toList
  let word := cs.map Char.toLower
  let size :=
    if word = ['i', 'n', 'f'] ∨ word = ['i', 'n', 'f', 'i', 'n', 'i', 't', 'y'] then
      some ((1 : Float) / 0)
    else if word = ['n', 'a', 'n'] then some ((0 : Float) / 0)
    else magnitude? cs
  size.map fun x => if negative then -x else x

end RemoteUi.Decimal
