/-
# RemoteUi.Proofs.Decimal.Numeral — what a numeral denotes, and what is read.

A numeral denotes a rational number exactly (`rational?`), of whatever size and with however many
places.  What is read of it is an integer if it is one of 64 bits, and a double in any case.  The
two readings agree: what reads as an integer denotes it, and reads as the double that it is
converted to (`double?_of_int64?`).

* The meaning of a numeral follows its parts: a sign or none, digits, a point with digits or none,
  and an exponent or none.  It is defined apart from the two readers and shares nothing with them
  but what a digit is.
* The readers stop counting when a number gets too large (`ofDigits`); short of that they have read
  all the digits (`ofDigits_eq`).
* The reader of doubles looks at twenty digits or so, and this is enough for 64 bits
  (`length_dropWhile_le`).
* A text that reads as an integer is digits, after a sign or none (`Whole`), so that everything else
  that a numeral may have can be left out of the proofs.

That a short numeral reads as the right double is shown where doubles are; here it is only carried
over to texts.
-/
import Mathlib
import RemoteUi.Decimal.Numeral
import RemoteUi.Proofs.Double.Whole

namespace RemoteUi.Decimal

/-! ## Exact numbers -/

/-- The number that digits name. -/
def digitsValue (cs : List Char) : Nat :=
  cs.foldl (fun n c => 10 * n + digitValue c) 0

/-- The exponent that the end of a numeral names: none, or `e` with an optional sign and digits. -/
def exactExponent? : List Char → Option Int
  | [] => some 0
  | c :: cs =>
    if c = 'e' ∨ c = 'E' then
      let (negative, ds) := unsigned cs
      if ds ≠ [] ∧ ds.all Char.isDigit then
        some (if negative then -(digitsValue ds : Int) else digitsValue ds)
      else none
    else none

/-- The number that a numeral without its sign denotes. -/
def exactMagnitude? (cs : List Char) : Option ℚ :=
  let whole := cs.takeWhile Char.isDigit
  let rest := cs.dropWhile Char.isDigit
  let (fraction, rest) := match rest with
    | '.' :: r => (r.takeWhile Char.isDigit, r.dropWhile Char.isDigit)
    | r => ([], r)
  if whole = [] ∧ fraction = [] then none
  else
    (exactExponent? rest).map fun e =>
      (digitsValue (whole ++ fraction) : ℚ) * 10 ^ (e - fraction.length : Int)

/-- The number that a numeral denotes.  The words for infinity and for no number denote none. -/
def rational? (s : String) : Option ℚ :=
  let (negative, cs) := unsigned s.toList
  (exactMagnitude? cs).map fun q => if negative then -q else q

/-! ## Digits -/

variable {cs : List Char} {bound n : Nat}

/-- Once the bound is reached no digit is read. -/
theorem foldl_of_le (cs : List Char) (h : bound ≤ n) :
    cs.foldl (fun n c => if n < bound then 10 * n + digitValue c else n) n = n := by
  induction cs with
  | nil => rfl
  | cons c rest ih => rwa [List.foldl_cons, if_neg (not_lt.mpr h)]

/-- Digits that are read short of the bound are read to the end. -/
theorem foldl_of_lt
    (h : cs.foldl (fun n c => if n < bound then 10 * n + digitValue c else n) n < bound) :
    cs.foldl (fun n c => if n < bound then 10 * n + digitValue c else n) n =
      cs.foldl (fun n c => 10 * n + digitValue c) n := by
  induction cs generalizing n with
  | nil => rfl
  | cons c rest ih =>
    rw [List.foldl_cons] at h ⊢
    rcases lt_or_ge n bound with hlt | hge
    · rw [if_pos hlt] at h ⊢
      exact ih h
    · rw [if_neg (not_lt.mpr hge), foldl_of_le rest hge] at h
      exact absurd h (not_lt.mpr hge)

theorem ofDigits_eq (h : ofDigits bound cs < bound) : ofDigits bound cs = digitsValue cs :=
  foldl_of_lt h

/-- Zeros at the front name nothing. -/
theorem digitsValue_dropWhile (cs : List Char) :
    digitsValue (cs.dropWhile (· == '0')) = digitsValue cs := by
  induction cs with
  | nil => rfl
  | cons c rest ih =>
    rw [List.dropWhile_cons]
    split
    · rename_i hzero
      obtain rfl : c = '0' := by simpa using hzero
      exact ih
    · rfl

/-- Each digit is worth a factor of ten to those before it. -/
theorem mul_pow_le_foldl (n : Nat) (cs : List Char) :
    n * 10 ^ cs.length ≤ cs.foldl (fun n c => 10 * n + digitValue c) n := by
  induction cs generalizing n with
  | nil => rw [List.length_nil, pow_zero, mul_one, List.foldl_nil]
  | cons c rest ih =>
    calc n * 10 ^ (rest.length + 1) = 10 * n * 10 ^ rest.length := by ring
      _ ≤ (10 * n + digitValue c) * 10 ^ rest.length :=
        Nat.mul_le_mul_right _ (Nat.le_add_right _ _)
      _ ≤ _ := ih _

/-- A digit other than zero names a positive number. -/
theorem digitValue_pos {c : Char} (hdigit : c.isDigit = true) (hzero : c ≠ '0') :
    0 < digitValue c := by
  have hlow : 48 ≤ c.toNat := by
    simp only [Char.isDigit, Bool.and_eq_true, decide_eq_true_eq] at hdigit
    exact hdigit.1
  have hne : c.toNat ≠ 48 := fun h => hzero (Char.toNat_inj.mp h)
  show 0 < c.toNat - 48
  omega

/-- A number below `2 ^ 64` has no more than twenty digits. -/
theorem length_dropWhile_le (hdigits : cs.all Char.isDigit = true)
    (hvalue : digitsValue cs < 2 ^ 64) : (cs.dropWhile (· == '0')).length ≤ 20 := by
  rw [← digitsValue_dropWhile] at hvalue
  cases hdrop : cs.dropWhile (· == '0') with
  | nil => exact Nat.zero_le _
  | cons c rest =>
    have hmem : c ∈ cs := List.dropWhile_subset _ (hdrop ▸ List.mem_cons_self)
    have hpos : 0 < digitValue c := by
      refine digitValue_pos (List.all_eq_true.mp hdigits c hmem) ?_
      have hhead := List.head_dropWhile_not (· == '0') (l := cs) (by simp [hdrop])
      simpa [hdrop] using hhead
    rw [hdrop] at hvalue
    -- the first digit that is left is not zero, and each one after it is worth a factor of ten
    have hlow : 10 ^ rest.length ≤ digitsValue (c :: rest) := by
      calc 10 ^ rest.length = 1 * 10 ^ rest.length := (one_mul _).symm
        _ ≤ (10 * 0 + digitValue c) * 10 ^ rest.length := Nat.mul_le_mul_right _ (by omega)
        _ ≤ _ := mul_pow_le_foldl _ rest
    by_contra hlong
    have hlength : 20 ≤ rest.length := by
      rw [List.length_cons] at hlong
      omega
    have htwenty : 10 ^ 20 ≤ 10 ^ rest.length := Nat.pow_le_pow_right (by decide) hlength
    omega

/-! ## Whole numbers -/

/-- The text is digits, after a sign or none. -/
structure Whole (s : String) (negative : Bool) (cs : List Char) : Prop where
  unsigned_eq : unsigned s.toList = (negative, cs)
  ne_nil : cs ≠ []
  digits : cs.all Char.isDigit = true

variable {s : String} {i : Int} {negative : Bool}

/-- What is read as an integer of 64 bits is digits, and names that integer. -/
theorem whole_of_int64? (h : int64? s = some i) :
    ∃ negative cs, Whole s negative cs ∧ digitsValue cs ≤ 2 ^ 63 ∧
      i = if negative then -(digitsValue cs : Int) else digitsValue cs := by
  unfold int64? at h
  -- the sign comes off first
  generalize hunsigned : unsigned s.toList = split at h
  obtain ⟨negative, cs⟩ := split
  dsimp only at h
  unfold natural? at h
  by_cases hdigits : cs ≠ [] ∧ cs.all Char.isDigit = true
  · rw [if_pos hdigits] at h
    dsimp only at h
    generalize hn : ofDigits (Nat.pow 2 64) cs = n at h
    generalize hi : (if negative then -(n : Int) else n) = i' at h
    split at h
    · rename_i hrange
      obtain rfl := Option.some.inj h
      have hlow : -2 ^ 63 ≤ i' := hrange.1
      have hhigh : i' < 2 ^ 63 := hrange.2
      have hle : n ≤ 2 ^ 63 := by
        cases negative
        · rw [if_neg Bool.false_ne_true] at hi
          omega
        · rw [if_pos rfl] at hi
          omega
      have hexact : n = digitsValue cs := by
        rw [← hn]
        refine ofDigits_eq ?_
        show ofDigits (Nat.pow 2 64) cs < 2 ^ 64
        omega
      rw [hexact] at hi hle
      exact ⟨negative, cs, ⟨hunsigned, hdigits.1, hdigits.2⟩, hle, hi.symm⟩
    · cases h
  · rw [if_neg hdigits] at h
    cases h

/-- Digits are read as the double that their number is converted to. -/
theorem ofSignificant_eq (hdigits : cs.all Char.isDigit = true)
    (hvalue : digitsValue cs < 2 ^ 64) :
    ofSignificant cs 0 = (digitsValue cs).toUInt64.toFloat := by
  have hlength : (cs.dropWhile (· == '0')).length ≤ enoughDigits :=
    (length_dropWhile_le hdigits hvalue).trans (by decide)
  unfold ofSignificant
  dsimp only
  rw [List.take_of_length_le hlength, List.drop_of_length_le hlength, if_pos rfl]
  show nearestDouble (digitsValue (cs.dropWhile (· == '0'))) _ 0 = _
  rw [digitsValue_dropWhile]
  unfold nearestDouble
  split
  · rename_i hzero
    rw [hzero]
    rfl
  · rename_i hpos
    rw [if_neg (by decide), if_neg (by omega), if_neg (by decide)]
    exact Double.ofScientific_eq_toFloat (by omega) hvalue

namespace Whole

theorem takeWhile_eq (h : Whole s negative cs) : cs.takeWhile Char.isDigit = cs :=
  List.takeWhile_eq_self_iff.mpr (List.all_eq_true.mp h.digits)

theorem dropWhile_eq (h : Whole s negative cs) : cs.dropWhile Char.isDigit = [] :=
  List.dropWhile_eq_nil_iff.mpr (List.all_eq_true.mp h.digits)

/-- Digits alone have no places and no exponent. -/
theorem magnitude?_eq (h : Whole s negative cs) (hvalue : digitsValue cs < 2 ^ 64) :
    magnitude? cs = some (digitsValue cs).toUInt64.toFloat := by
  unfold magnitude?
  dsimp only
  rw [h.takeWhile_eq, h.dropWhile_eq]
  dsimp only
  rw [if_neg fun hnil => h.ne_nil hnil.1, List.append_nil]
  exact congrArg some (ofSignificant_eq h.digits hvalue)

theorem exactMagnitude?_eq (h : Whole s negative cs) :
    exactMagnitude? cs = some (digitsValue cs : ℚ) := by
  unfold exactMagnitude?
  dsimp only
  rw [h.takeWhile_eq, h.dropWhile_eq]
  dsimp only
  rw [if_neg fun hnil => h.ne_nil hnil.1, List.append_nil]
  show some ((digitsValue cs : ℚ) * 10 ^ (0 : Int)) = _
  rw [zpow_zero, mul_one]

/-- Digits have no case. -/
theorem map_toLower_eq (h : Whole s negative cs) : cs.map Char.toLower = cs := by
  have hlower : ∀ c ∈ cs, Char.toLower c = id c := by
    intro c hc
    have hdigit := List.all_eq_true.mp h.digits c hc
    simp only [Char.isDigit, Bool.and_eq_true, decide_eq_true_eq] at hdigit
    unfold Char.toLower
    refine dif_neg fun hupper => ?_
    -- a digit is below every letter
    have hlow : 65 ≤ c.toNat := hupper.1
    have hhigh : c.toNat ≤ 57 := hdigit.2
    omega
  rw [List.map_congr_left hlower, List.map_id]

/-- What is digits is none of the words for infinity and for no number. -/
theorem double?_eq (h : Whole s negative cs) (hvalue : digitsValue cs < 2 ^ 64) :
    double? s = some (if negative then -(digitsValue cs).toUInt64.toFloat
      else (digitsValue cs).toUInt64.toFloat) := by
  have hword : ∀ word : List Char, word.all Char.isDigit = false → cs ≠ word := by
    rintro word hletters rfl
    rw [h.digits] at hletters
    cases hletters
  unfold double?
  rw [h.unsigned_eq]
  dsimp only
  rw [h.map_toLower_eq, if_neg, if_neg (hword _ (by decide)), h.magnitude?_eq hvalue]
  · rfl
  · rintro (hinf | hinfinity)
    · exact hword _ (by decide) hinf
    · exact hword _ (by decide) hinfinity

theorem rational?_eq (h : Whole s negative cs) :
    rational? s = some (if negative then -(digitsValue cs : ℚ) else digitsValue cs) := by
  unfold rational?
  rw [h.unsigned_eq]
  dsimp only
  rw [h.exactMagnitude?_eq]
  rfl

end Whole

/-- What reads as an integer denotes it. -/
theorem rational?_of_int64? (h : int64? s = some i) : rational? s = some (i : ℚ) := by
  obtain ⟨negative, cs, hwhole, -, rfl⟩ := whole_of_int64? h
  rw [hwhole.rational?_eq]
  cases negative <;> simp

/-- What reads as an integer reads as the double that the integer is converted to, but for the sign
of zero. -/
theorem double?_of_int64? (h : int64? s = some i) :
    ∃ x, double? s = some x ∧ (x == Json.doubleOfInt i) = true := by
  obtain ⟨negative, cs, hwhole, hle, rfl⟩ := whole_of_int64? h
  refine ⟨_, hwhole.double?_eq (by omega), ?_⟩
  generalize digitsValue cs = n
  cases negative with
  | false =>
    rw [if_neg Bool.false_ne_true, if_neg Bool.false_ne_true]
    exact Double.doubleOfInt_beq_self n
  | true =>
    rw [if_pos rfl, if_pos rfl]
    -- minus nothing is the one integer whose text reads as another zero
    cases n with
    | zero => decide +kernel
    | succ n => exact Double.doubleOfInt_beq_self (.negSucc n)

end RemoteUi.Decimal
