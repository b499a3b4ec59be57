/-
# RemoteUi.Proofs.Double.Whole — whole numbers in double precision.

A whole number of at most 64 bits becomes the same double whether it is converted or read as a
numeral (`ofScientific_eq_toFloat`).  Up to `2 ^ 53` it is exactly that number, so that doubles tell
such numbers apart (`doubleOfInt_inj`).  Both matter where what a user entered is compared with what
a widget shows: one of them may come as an integer, and the other as a text.

The two ways to make a double differ in how they get to its mantissa.

* Conversion rounds at once.  A short number is moved up until its mantissa is full (`round_of_lt`),
  and a long one loses its last places (`round_of_le`).
* The reader of numerals multiplies a short number by a power of ten, here by one
  (`toFloat_mul_one`), and moves a long one up by as many zeros as a mantissa has places before it
  rounds (`ofScientific_natCast`).

That both come to the same follows from what is known of any format: zeros at the end of a mantissa
make no difference.  The exact value of a double (`value`) serves only to show that different whole
numbers have different ones.
-/
import RemoteUi.Json.Basic
import RemoteUi.Proofs.Binary.Packing

namespace RemoteUi.Double

open Float.Model (Format UnpackedFloat totalExponent)
open Float.Model.UnpackedFloat (Sign pack unpack roundWithAccuracy)

variable {x y z : Float} {n m : ℕ} {e : ℤ}

/-! ## Equality -/

/-- Doubles are equal if they are the same and not no number, or if they are zeros of two signs. -/
theorem beq_symm (h : (x == y) = true) : (y == x) = true := by
  rw [Float.beq_iff_ne_nan_and_eq] at h ⊢
  obtain ⟨hx, hy, h⟩ := h
  refine ⟨hy, hx, ?_⟩
  rcases h with rfl | ⟨hx, hy⟩ | ⟨hx, hy⟩
  · exact Or.inl rfl
  · exact Or.inr (Or.inr ⟨hy, hx⟩)
  · exact Or.inr (Or.inl ⟨hy, hx⟩)

/-- Three doubles, of which the first two are equal and the last two as well. -/
theorem beq_trans (hxy : (x == y) = true) (hyz : (y == z) = true) : (x == z) = true := by
  have hzeros : (-0 : Float) ≠ 0 := by decide +kernel
  rw [Float.beq_iff_ne_nan_and_eq] at hxy hyz ⊢
  obtain ⟨hx, -, hxy⟩ := hxy
  obtain ⟨-, hz, hyz⟩ := hyz
  refine ⟨hx, hz, ?_⟩
  -- by the three ways in which the first two are equal; the two zeros are taken to be different
  rcases hxy with rfl | ⟨rfl, rfl⟩ | ⟨rfl, rfl⟩
  · exact hyz
  · rcases hyz with rfl | ⟨h, -⟩ | ⟨-, rfl⟩
    · exact Or.inr (Or.inl ⟨rfl, rfl⟩)
    · exact absurd h hzeros
    · exact Or.inl rfl
  · rcases hyz with rfl | ⟨-, rfl⟩ | ⟨h, -⟩
    · exact Or.inr (Or.inr ⟨rfl, rfl⟩)
    · exact Or.inl rfl
    · exact absurd h.symm hzeros

/-! ## Numbers -/

/-- A number is packed to a double that is a number. -/
theorem pack_ne_nan {u : UnpackedFloat} (hu : u ≠ .notANumber) : Float.ofModel (.pack u) ≠ .nan := by
  intro heq
  have hunpack : (Float.Model.pack u).unpack = .notANumber := by
    rw [show Float.Model.pack u = Float.nan.toModel from congrArg Float.toModel heq]
    rfl
  exact Binary.unpack_pack_ne_notANumber hu hunpack

/-- Conversion makes a number, and so does the change of sign. -/
theorem toFloat_ne_nan (n : UInt64) : n.toFloat ≠ .nan ∧ -n.toFloat ≠ .nan := by
  have hnormal := Binary.normalize_ne_notANumber .binary64 n.toNat 0 .positive
  refine ⟨pack_ne_nan hnormal, pack_ne_nan ?_⟩
  have hunpack : n.toFloat.toModel.unpack ≠ .notANumber :=
    Binary.unpack_pack_ne_notANumber hnormal
  generalize n.toFloat.toModel.unpack = u at hunpack
  cases u with
  | notANumber => exact absurd rfl hunpack
  | infinity | zero | finite => exact UnpackedFloat.noConfusion

/-- An integer is converted to a number. -/
theorem doubleOfInt_beq_self (i : ℤ) : (Json.doubleOfInt i == Json.doubleOfInt i) = true := by
  rw [Float.beq_self_iff]
  cases i with
  | ofNat n => exact (toFloat_ne_nan _).1
  | negSucc n => exact (toFloat_ne_nan _).2

/-! ## Conversion and reading -/

/-- Conversion, in terms of mantissas and exponents. -/
theorem toFloat_eq_pack (hn : n < 2 ^ 64) :
    n.toUInt64.toFloat = ⟨.pack (.normalize .binary64 n 0 .positive)⟩ := by
  have hnat : n.toUInt64.toNat = n := UInt64.toNat_ofNat_of_lt hn
  show Float.ofModel (.pack (.normalize .binary64 (n.toUInt64.toNat : ℕ) 0 .positive)) = _
  rw [hnat]

/-- A whole number is rounded 52 places below its first. -/
theorem targetExponent_natCast (n : ℕ) :
    Format.binary64.targetExponent (totalExponent n 0) = (n.log2 : ℤ) - 52 := by
  show max ((n.log2 : ℤ) + 1 + 0 - 53) (-1074) = _
  omega

/-- A number that is too long for a mantissa loses its last places. -/
theorem round_of_le (hn : 2 ^ 53 ≤ n) :
    UnpackedFloat.round .binary64 .positive n 0 =
      roundWithAccuracy .binary64 .positive n 0 .exact := by
  have hlog : 53 ≤ n.log2 := (Nat.le_log2 (by omega)).mpr hn
  unfold UnpackedFloat.round
  dsimp only
  rw [targetExponent_natCast]
  unfold UnpackedFloat.decreaseExponent
  dsimp only
  rw [show (0 - ((n.log2 : ℤ) - 52)).toNat = 0 by omega]
  rfl

/-- A mantissa of exactly 53 places. -/
structure Full (m : ℕ) : Prop where
  le : 2 ^ 52 ≤ m
  lt : m < 2 ^ 53

theorem Full.pos (h : Full m) : 0 < m := lt_of_lt_of_le (by decide) h.le

theorem Full.target (h : Full m) (he : -1074 ≤ e) :
    Format.binary64.targetExponent (totalExponent m e) = e := by
  have hlog : m.log2 = 52 := (Nat.log2_eq_iff h.pos.ne').mpr ⟨h.le, h.lt⟩
  show max ((m.log2 : ℤ) + 1 + e - 53) (-1074) = e
  omega

/-- A number with a full mantissa is read back, as long as its exponent is in range. -/
theorem Full.unpack_pack {sign : Sign} (h : Full m) (he : -1074 ≤ e) (he' : e ≤ 971) :
    unpack .binary64 (pack .binary64 (.finite sign m e h.pos)) = .finite sign m e h.pos := by
  have hbias : (Format.binary64.exponentBias : ℤ) = 1023 := rfl
  have hbits : ((2 ^ Format.binary64.exponentBits : ℕ) : ℤ) = 2048 := rfl
  refine Binary.unpack_pack_normal h.le h.lt ?_ ?_ h.pos
  · rw [hbias]
    show 0 < e + (1023 + 52)
    omega
  · rw [hbias, hbits]
    show e + (1023 + 52) + 1 < 2048
    omega

/-- A number that is short enough is moved up until its mantissa is full. -/
theorem round_of_lt (hn : 0 < n) (hlt : n < 2 ^ 53) :
    ∃ (m k : ℕ) (hm : Full m), k ≤ 52 ∧ m = n * 2 ^ k ∧
      UnpackedFloat.round .binary64 .positive n 0 = .finite .positive m (-k) hm.pos := by
  have hlog : n.log2 ≤ 52 := Nat.lt_succ_iff.mp ((Nat.log2_lt hn.ne').mpr hlt)
  have hlow : 2 ^ n.log2 ≤ n := Nat.log2_self_le hn.ne'
  have hhigh : n < 2 ^ (n.log2 + 1) := Nat.lt_log2_self
  -- moved up until its first place is the 53rd
  have hfull : Full (n * 2 ^ (52 - n.log2)) := by
    constructor
    · calc 2 ^ 52 = 2 ^ n.log2 * 2 ^ (52 - n.log2) := by rw [← pow_add]; congr 1; omega
        _ ≤ n * 2 ^ (52 - n.log2) := Nat.mul_le_mul_right _ hlow
    · calc n * 2 ^ (52 - n.log2) < 2 ^ (n.log2 + 1) * 2 ^ (52 - n.log2) :=
            Nat.mul_lt_mul_of_pos_right hhigh (by positivity)
        _ = 2 ^ 53 := by rw [← pow_add]; congr 1; omega
  refine ⟨_, 52 - n.log2, hfull, Nat.sub_le _ _, rfl, ?_⟩
  have hexp : (0 : ℤ) - (52 - n.log2 : ℕ) = -((52 - n.log2 : ℕ) : ℤ) := by omega
  unfold UnpackedFloat.round
  dsimp only
  rw [targetExponent_natCast]
  unfold UnpackedFloat.decreaseExponent
  dsimp only
  rw [show (0 - ((n.log2 : ℤ) - 52)).toNat = 52 - n.log2 by omega, Nat.shiftLeft_eq, hexp]
  exact Binary.roundWithAccuracy_of_target hfull.pos (hfull.target (by omega))

/-- A short number, as it is packed and as it is read back. -/
theorem unpack_toFloat (hn : 0 < n) (hlt : n < 2 ^ 53) :
    ∃ (m k : ℕ) (hm : Full m), k ≤ 52 ∧ m = n * 2 ^ k ∧
      n.toUInt64.toFloat = ⟨.pack (.finite .positive m (-k) hm.pos)⟩ ∧
      n.toUInt64.toFloat.toModel.unpack = .finite .positive m (-k) hm.pos := by
  obtain ⟨m, k, hm, hk, hmn, hround⟩ := round_of_lt hn hlt
  have hpack : n.toUInt64.toFloat = ⟨.pack (.finite .positive m (-k) hm.pos)⟩ := by
    rw [toFloat_eq_pack (by omega), Binary.normalize_natCast hn, hround]
  refine ⟨m, k, hm, hk, hmn, hpack, ?_⟩
  rw [hpack]
  exact hm.unpack_pack (by omega) (by omega)

/-- One, as the reader of numerals has it. -/
theorem toFloat_mul_one (hn : 0 < n) (hlt : n < 2 ^ 53) :
    n.toUInt64.toFloat * Float.ofBits 0x3FF0000000000000 = n.toUInt64.toFloat := by
  obtain ⟨m, k, hm, hk, -, hpack, hunpack⟩ := unpack_toFloat hn hlt
  have hone : (Float.ofBits 0x3FF0000000000000).toModel.unpack =
      .finite .positive (2 ^ 52) (-52) (by decide) := by rfl
  have hmul : n.toUInt64.toFloat * Float.ofBits 0x3FF0000000000000 =
      ⟨.pack (.mul .binary64 n.toUInt64.toFloat.toModel.unpack
        (Float.ofBits 0x3FF0000000000000).toModel.unpack)⟩ := rfl
  rw [hmul, hunpack, hone, hpack]
  congr 2
  show roundWithAccuracy .binary64 _ (m * 2 ^ 52) (-k + -52) .exact = _
  have htarget := hm.target (e := -k) (by omega)
  -- the product with one has 52 zeros at its end, which make no difference
  refine (Binary.roundWithAccuracy_mul_two_pow hm.pos htarget.ge 52).trans ?_
  exact Binary.roundWithAccuracy_of_target hm.pos htarget

/-- The reader moves a long number up by as many zeros as a mantissa has places. -/
theorem ofScientific_natCast (hn : 0 < n) :
    UnpackedFloat.ofScientific .binary64 n 0 =
      roundWithAccuracy .binary64 .positive (n * 2 ^ 53) (0 - (53 : ℕ)) .exact := by
  have hlow : ¬ (0 : ℤ) < -((2 ^ Format.binary64.exponentBits : ℤ) + n.log2) := by
    have hbits : (0 : ℤ) ≤ 2 ^ Format.binary64.exponentBits := by positivity
    omega
  have hhigh : ¬ (0 : ℤ) > 2 ^ Format.binary64.exponentBits := by decide
  unfold UnpackedFloat.ofScientific
  rw [dif_neg hn.ne', if_neg hhigh, if_neg hlow, if_pos le_rfl]
  show roundWithAccuracy .binary64 .positive (n <<< 53 * 1) (-53 + 0) .exact = _
  rw [mul_one, Nat.shiftLeft_eq]
  rfl

/-- A whole number is read as it is converted. -/
theorem ofScientific_eq_toFloat (hn : 0 < n) (hlt : n < 2 ^ 64) :
    Float.ofScientific n false 0 = n.toUInt64.toFloat := by
  unfold Float.ofScientific
  -- a short number is multiplied by one, a long one is moved up and back
  by_cases hshort : n < 2 ^ 53
  · rw [dif_pos ⟨hshort, by decide⟩]
    exact toFloat_mul_one hn hshort
  · rw [dif_neg fun h => hshort h.1, toFloat_eq_pack hlt, Binary.normalize_natCast hn,
      round_of_le (not_lt.mp hshort)]
    show Float.ofModel (.pack (.ofScientific .binary64 n 0)) = _
    have hlog : 53 ≤ n.log2 := (Nat.le_log2 hn.ne').mpr (not_lt.mp hshort)
    have htarget : 0 ≤ Format.binary64.targetExponent (totalExponent n 0) := by
      rw [targetExponent_natCast]
      omega
    rw [ofScientific_natCast hn, Binary.roundWithAccuracy_mul_two_pow hn htarget]

/-! ## Exact values -/

/-- The rational number that a double is, if it is one. -/
def value (x : Float) : ℚ :=
  match x.toModel.unpack with
  | .finite .positive m e _ => m * 2 ^ e
  | .finite .negative m e _ => -(m * 2 ^ e)
  | _ => 0

/-- Equal doubles have the same value. -/
theorem value_eq_of_beq (h : (x == y) = true) : value x = value y := by
  obtain ⟨-, -, rfl | ⟨rfl, rfl⟩ | ⟨rfl, rfl⟩⟩ := Float.beq_iff_ne_nan_and_eq.mp h
  · rfl
  · rfl
  · rfl

/-- The value is the mantissa times the power of two, with the sign. -/
theorem value_pack (hm : Full m) (he : -1074 ≤ e) (he' : e ≤ 971) :
    value ⟨.pack (.finite .positive m e hm.pos)⟩ = m * 2 ^ e ∧
      value (-⟨.pack (.finite .positive m e hm.pos)⟩) = -(m * 2 ^ e) := by
  have hpositive : (Float.Model.pack (.finite .positive m e hm.pos)).unpack =
      .finite .positive m e hm.pos := hm.unpack_pack he he'
  have hnegative : (Float.Model.pack (.finite .negative m e hm.pos)).unpack =
      .finite .negative m e hm.pos := hm.unpack_pack he he'
  constructor
  · unfold value
    rw [hpositive]
  · have hneg : -(⟨.pack (.finite .positive m e hm.pos)⟩ : Float) =
        ⟨.pack (UnpackedFloat.neg (Float.Model.pack (.finite .positive m e hm.pos)).unpack)⟩ := rfl
    rw [hneg, hpositive]
    show value ⟨.pack (.finite .negative m e hm.pos)⟩ = _
    unfold value
    rw [hnegative]

/-- Whole numbers up to `2 ^ 53` are doubles. -/
theorem value_toFloat (hle : n ≤ 2 ^ 53) :
    value n.toUInt64.toFloat = n ∧ value (-n.toUInt64.toFloat) = -n := by
  rcases hle.lt_or_eq with hlt | rfl
  · rcases n.eq_zero_or_pos with rfl | hn
    · rw [Nat.cast_zero, neg_zero]
      exact ⟨rfl, rfl⟩
    · obtain ⟨m, k, hm, hk, rfl, hpack, -⟩ := unpack_toFloat hn hlt
      have hvalue : ((n * 2 ^ k : ℕ) : ℚ) * 2 ^ (-k : ℤ) = n := by
        rw [zpow_neg, zpow_natCast]
        push_cast
        field_simp
      have hboth := value_pack hm (e := -k) (by omega) (by omega)
      rwa [← hpack, hvalue] at hboth
  · -- the number itself has one place too many, and a zero at its end
    have hfull : Full (2 ^ 52) := ⟨le_rfl, by decide⟩
    have hpack : (2 ^ 53).toUInt64.toFloat = ⟨.pack (.finite .positive (2 ^ 52) 1 (by decide))⟩ := by
      decide +kernel
    have hboth := value_pack hfull (e := 1) (by decide) (by decide)
    rw [← hpack] at hboth
    norm_num at hboth ⊢
    exact hboth

/-- An integer that is short enough is the value of its double. -/
theorem value_doubleOfInt {i : ℤ} (hlow : -2 ^ 53 ≤ i) (hhigh : i ≤ 2 ^ 53) :
    value (Json.doubleOfInt i) = i := by
  cases i with
  | ofNat n => exact (value_toFloat (by simpa using hhigh)).1
  | negSucc n =>
    have hle : n + 1 ≤ 2 ^ 53 := by omega
    rw [Json.doubleOfInt]
    rw [(value_toFloat hle).2]
    push_cast
    ring

/-- Doubles tell whole numbers up to `2 ^ 53` apart. -/
theorem doubleOfInt_inj {i j : ℤ} (hi : -2 ^ 53 ≤ i) (hi' : i ≤ 2 ^ 53) (hj : -2 ^ 53 ≤ j)
    (hj' : j ≤ 2 ^ 53) (h : (Json.doubleOfInt i == Json.doubleOfInt j) = true) : i = j := by
  have hvalue := value_eq_of_beq h
  rw [value_doubleOfInt hi hi', value_doubleOfInt hj hj'] at hvalue
  exact_mod_cast hvalue

end RemoteUi.Double
