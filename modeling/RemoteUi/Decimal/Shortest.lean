/-
# RemoteUi.Decimal.Shortest — binary fractions in decimal digits.

A double-precision number stands for every real that rounds to it.  `shortest` gives the decimal
number with the fewest significant digits inside that interval, and of two with equally many
digits the nearer one; when both are equally near, the one with the even last digit.

A single-precision number is also written with two places after the point (`twoPlaces`): its value
is rounded to hundredths, a half going to the even neighbour.  All arithmetic is exact, on natural
numbers.
-/

namespace RemoteUi.Decimal

/-! ## The fewest digits -/

/-- A positive binary fraction `mantissa * 2 ^ exponent`, with the distance to the border of the
interval that rounds to it, in quarters of the last place: two on either side, but one below a
power of two. -/
structure Binary where
  mantissa : Nat
  exponent : Int
  below : Nat

/-- The binary fraction of a finite double's bits, sign aside. -/
def Binary.ofBits (bits : Nat) : Binary :=
  let fraction : Nat := bits % Nat.pow 2 52
  let biased : Nat := bits / Nat.pow 2 52 % Nat.pow 2 11
  if biased = 0 then ⟨fraction, -1074, 2⟩
  else ⟨Nat.pow 2 52 + fraction, (biased : Int) - 1075, if fraction = 0 ∧ 1 < biased then 1 else 2⟩

/-- A decimal number `digits * 10 ^ exponent`. -/
structure Digits where
  digits : Nat
  exponent : Int
  deriving DecidableEq

/-- `m * b ^ e` as a quotient of natural numbers. -/
def scaled (m b : Nat) (e : Int) : Nat × Nat :=
  match e with
  | .ofNat n => (m * Nat.pow b n, 1)
  | .negSucc n => (m, Nat.pow b (n + 1))

/-- The quotient `x` is at most the quotient `y`. -/
def ratioLe (x y : Nat × Nat) : Bool :=
  x.1 * y.2 ≤ y.1 * x.2

/-- The exponent `e` with `10 ^ e ≤ x < 10 ^ (e + 1)`, from a guess that is at most one off. -/
def decimalExponent (x : Nat × Nat) (guess : Int) : Int :=
  if !ratioLe (scaled 1 10 guess) x then guess - 1
  else if ratioLe (scaled 1 10 (guess + 1)) x then guess + 1
  else guess

/-- The candidate on the grid of step `10 ^ p`: of the two grid points around the number, those
inside the interval, the nearer one first. -/
def onGrid (b : Binary) (p : Int) : Option Nat :=
  -- four times the number and its borders, over the common denominator `den`
  let (unit, den) := scaled 1 2 b.exponent
  let value := 4 * b.mantissa * unit
  let low := (4 * b.mantissa - b.below) * unit
  let high := (4 * b.mantissa + 2) * unit
  let (stepNum, stepDen) := scaled 4 10 p
  let step := stepNum * den
  let value := value * stepDen
  let low := low * stepDen
  let high := high * stepDen
  let closed := b.mantissa % 2 = 0
  let inside (d : Nat) : Bool :=
    if closed then low ≤ d * step && d * step ≤ high else low < d * step && d * step < high
  let d := value / step
  let rest := value - d * step
  let above := step - rest
  let lower := decide (0 < d) && inside d
  let upper := inside (d + 1)
  if lower && upper then
    if rest < above ∨ (rest = above ∧ d % 2 = 0) then some d else some (d + 1)
  else if lower then some d
  else if upper then some (d + 1)
  else none

/-- Tries the grids with one significant digit more each time. -/
def search (b : Binary) (e : Int) : Nat → Nat → Option Digits
  | _, 0 => none
  | digits, fuel + 1 =>
    let p := e - digits
    match onGrid b p with
    | some d => some ⟨d, p⟩
    | none => search b e (digits + 1) fuel

/-- Moves trailing zeros of the digits into the exponent. -/
def Digits.normal (d : Digits) : Nat → Digits
  | 0 => d
  | fuel + 1 =>
    if d.digits ≠ 0 ∧ d.digits % 10 = 0 then
      Digits.normal ⟨d.digits / 10, d.exponent + 1⟩ fuel
    else d

/-- The shortest decimal number that rounds to the positive binary fraction.  Seventeen
significant digits always suffice for a double. -/
def shortest (b : Binary) : Digits :=
  let x := scaled b.mantissa 2 b.exponent
  let guess := ((Nat.log2 b.mantissa : Int) + b.exponent) * 30103 / 100000
  let e := decimalExponent x guess
  ((search b e 0 18).getD ⟨b.mantissa, b.exponent⟩).normal 20

/-! ## Two places -/

/-- `num / den` rounded to the nearest natural number, a half to the even one. -/
def roundHalfEven (num den : Nat) : Nat :=
  let q := num / den
  let r := num % den
  if den < 2 * r ∨ (den = 2 * r ∧ q % 2 = 1) then q + 1 else q

/-- Hundredths of the finite single-precision number with the given bits, sign aside. -/
def hundredths (bits : Nat) : Nat :=
  let fraction : Nat := bits % Nat.pow 2 23
  let biased : Nat := bits / Nat.pow 2 23 % Nat.pow 2 8
  -- the value is `mantissa * 2 ^ power / 2 ^ 149`
  let mantissa : Nat := if biased = 0 then fraction else Nat.pow 2 23 + fraction
  let power : Nat := biased - 1
  roundHalfEven (100 * mantissa * Nat.pow 2 power) (Nat.pow 2 149)

/-- The number with two places after the point; `NaN` and `inf` are written as words. -/
def twoPlaces (x : Float32) : String :=
  let bits := x.toBits.toNat
  let sign := if Nat.pow 2 31 ≤ bits then "-" else ""
  if x.isNaN then "NaN"
  else if x.isInf then sign ++ "inf"
  else
    let n := hundredths bits
    let places := toString (n % 100)
    sign ++ toString (n / 100) ++ "." ++ (if n % 100 < 10 then "0" ++ places else places)

end RemoteUi.Decimal
