/-
# RemoteUi.Proofs.Binary.Packing — floating point of any format, before and after rounding.

What holds of a format whatever its widths.  Numbers of single and of double precision are made by
the same functions, with the widths as a parameter, and what is told here of those functions serves
both.

* A number whose first place is not written comes back as it was packed (`unpack_pack_normal`), and
  what is a number stays one (`unpack_pack_ne_notANumber`).  The latter holds of infinity too, which
  is packed with an exponent of its own.
* Rounding never makes what is no number (`roundWithAccuracy_ne_notANumber`).
* A mantissa that fits is not rounded (`roundWithAccuracy_of_target`), and zeros at its end make no
  difference (`roundWithAccuracy_mul_two_pow`).  So a mantissa may be moved up to its full length
  before it is rounded, or not, as a proof needs it.
-/
import Mathlib

namespace RemoteUi.Binary

open Float.Model (Format UnpackedFloat totalExponent)
open Float.Model.UnpackedFloat (ExtendedMantissa Sign pack unpack packComponents
  roundWithAccuracy shiftToTargetExponent shiftToExponent)

variable {spec : Format} {sign : Sign} {m : ℕ} {e : ℤ}

/-! ## Packing -/

/-- An exponent in range is not the one of infinity. -/
theorem ofNat_ne_neg_one {w n : ℕ} (h : n + 1 < 2 ^ w) : BitVec.ofNat w n ≠ -1#_ := by
  intro heq
  have htoNat := congrArg BitVec.toNat heq
  rw [BitVec.toNat_ofNat, Nat.mod_eq_of_lt (by omega), BitVec.neg_one_eq_allOnes,
    BitVec.toNat_allOnes] at htoNat
  omega

/-- A number whose first place is not written. -/
theorem unpack_packComponents_normal {biased : ℕ} (hm : 2 ^ spec.mantissaBitsWithoutImplicit ≤ m)
    (hm' : m < 2 ^ (spec.mantissaBitsWithoutImplicit + 1)) (hpos : 0 < biased)
    (hmax : biased + 1 < 2 ^ spec.exponentBits) :
    unpack spec (packComponents spec sign (BitVec.ofNat _ biased) (BitVec.ofNat _ m)) =
      .finite sign m (biased - (spec.exponentBias + spec.mantissaBitsWithoutImplicit))
        (lt_of_lt_of_le (by positivity) hm) := by
  have hexp : (BitVec.ofNat spec.exponentBits biased).toNat = biased := by
    rw [BitVec.toNat_ofNat, Nat.mod_eq_of_lt (by omega)]
  have hall := ofNat_ne_neg_one hmax
  have hzero : BitVec.ofNat spec.exponentBits biased ≠ 0#_ := by
    intro heq
    have htoNat := congrArg BitVec.toNat heq
    rw [hexp] at htoNat
    exact absurd htoNat hpos.ne'
  -- the first place, which was left out, is put back in front
  have hmantissa : (1#1 ++ BitVec.ofNat spec.mantissaBitsWithoutImplicit m).toNat = m := by
    rw [BitVec.toNat_append, ← Nat.shiftLeft_add_eq_or_of_lt (BitVec.isLt _), BitVec.toNat_ofNat,
      Nat.shiftLeft_eq]
    show 1 * 2 ^ spec.mantissaBitsWithoutImplicit + m % 2 ^ spec.mantissaBitsWithoutImplicit = m
    rw [Nat.mod_eq_sub_mod hm, Nat.mod_eq_of_lt (by rw [pow_succ] at hm'; omega)]
    omega
  unfold unpack
  simp only [UnpackedFloat.unpackMantissa_packComponents,
    UnpackedFloat.unpackExponent_packComponents, UnpackedFloat.unpackSign_packComponents,
    if_neg hall, if_neg hzero, hexp, hmantissa]
  cases sign <;> rfl

/-- It comes back as it was packed. -/
theorem unpack_pack_normal (hm : 2 ^ spec.mantissaBitsWithoutImplicit ≤ m)
    (hm' : m < 2 ^ (spec.mantissaBitsWithoutImplicit + 1))
    (hpos : 0 < e + (spec.exponentBias + spec.mantissaBitsWithoutImplicit))
    (hmax : e + (spec.exponentBias + spec.mantissaBitsWithoutImplicit) + 1 <
      (2 ^ spec.exponentBits : ℕ)) (h : 0 < m) :
    unpack spec (pack spec (.finite sign m e h)) = .finite sign m e h := by
  -- the mantissa is full, which tells the case in which it was packed
  have hlog : m.log2 = spec.mantissaBitsWithoutImplicit := (Nat.log2_eq_iff h.ne').mpr ⟨hm, hm'⟩
  obtain ⟨biased, hbiased⟩ := Int.eq_ofNat_of_zero_le hpos.le
  unfold pack
  rw [show e + spec.exponentBias + spec.mantissaBitsWithoutImplicit = biased by omega]
  dsimp only
  rw [Int.toNat_natCast, if_neg (by omega), if_pos (by rw [hlog, Format.mantissaBits, add_comm]),
    unpack_packComponents_normal hm hm' (by omega) (by omega)]
  congr 1
  omega

/-- What is no number has the exponent of infinity. -/
theorem unpack_packComponents_ne_notANumber {exponent : BitVec spec.exponentBits}
    {mantissa : BitVec spec.mantissaBitsWithoutImplicit} (h : exponent ≠ -1#_) :
    unpack spec (packComponents spec sign exponent mantissa) ≠ .notANumber := by
  unfold unpack
  simp only [UnpackedFloat.unpackMantissa_packComponents,
    UnpackedFloat.unpackExponent_packComponents, if_neg h]
  split
  · split <;> exact UnpackedFloat.noConfusion
  · exact UnpackedFloat.noConfusion

/-- Infinity has that exponent as well, and is told apart by its mantissa. -/
theorem unpack_packedInfinity_ne_notANumber :
    unpack spec (UnpackedFloat.packedInfinity spec sign) ≠ .notANumber := by
  unfold UnpackedFloat.packedInfinity unpack
  simp

/-- A number stays a number. -/
theorem unpack_pack_ne_notANumber {u : UnpackedFloat} (hu : u ≠ .notANumber) :
    unpack spec (pack spec u) ≠ .notANumber := by
  -- a finite number is packed in one of three ways: as infinity, with its first place left out, or
  -- under the least exponent
  cases u with
  | notANumber => exact absurd rfl hu
  | zero sign =>
    rw [show pack spec (.zero sign) = UnpackedFloat.packedZero spec sign from rfl,
      UnpackedFloat.unpack_packedZero]
    exact UnpackedFloat.noConfusion
  | infinity sign => exact unpack_packedInfinity_ne_notANumber
  | finite sign m e h =>
    unfold pack
    dsimp only
    split
    · exact unpack_packedInfinity_ne_notANumber
    · rename_i hmax
      split
      · exact unpack_packComponents_ne_notANumber (ofNat_ne_neg_one (by omega))
      · have htwo : 2 ^ 1 ≤ 2 ^ spec.exponentBits := Nat.pow_le_pow_right (by decide) spec.he
        exact unpack_packComponents_ne_notANumber (ofNat_ne_neg_one (by omega))

/-! ## Rounding -/

theorem roundWithAccuracy_ne_notANumber (accuracy : UnpackedFloat.Accuracy) :
    roundWithAccuracy spec sign m e accuracy ≠ .notANumber := by
  unfold roundWithAccuracy
  dsimp only
  split <;> exact UnpackedFloat.noConfusion

/-- A positive whole number with an exponent is rounded. -/
theorem normalize_natCast {n : ℕ} (hn : 0 < n) (e : ℤ) (zeroSign : Sign) :
    UnpackedFloat.normalize spec n e zeroSign = UnpackedFloat.round spec .positive n e := by
  have hcompare : compare (n : ℤ) 0 = .gt := compare_gt_iff_gt.mpr (Int.natCast_pos.mpr hn)
  unfold UnpackedFloat.normalize
  rw [hcompare]
  rfl

theorem normalize_ne_notANumber (spec : Format) (n e : ℤ) (sign : Sign) :
    UnpackedFloat.normalize spec n e sign ≠ .notANumber := by
  unfold UnpackedFloat.normalize
  split
  · exact roundWithAccuracy_ne_notANumber _
  · exact UnpackedFloat.noConfusion
  · exact roundWithAccuracy_ne_notANumber _

/-- The first step may be taken out, where the definition takes out the last. -/
theorem repeat_succ {α : Type} (f : α → α) (n : ℕ) (a : α) :
    Nat.repeat f (n + 1) a = Nat.repeat f n (f a) := by
  induction n with
  | zero => rfl
  | succ n ih => exact congrArg f ih

/-- Zeros at the end of a mantissa are shifted out without a trace. -/
theorem shiftRight_mul_two_pow (m k n : ℕ) :
    (⟨m * 2 ^ k, false, false⟩ : ExtendedMantissa) >>> (k + n) =
      (⟨m, false, false⟩ : ExtendedMantissa) >>> n := by
  show Nat.repeat ExtendedMantissa.shiftRightOne (k + n) _ = Nat.repeat _ n _
  induction k with
  | zero => rw [pow_zero, mul_one, zero_add]
  | succ k ih =>
    have hone : ExtendedMantissa.shiftRightOne ⟨m * 2 ^ (k + 1), false, false⟩ =
        ⟨m * 2 ^ k, false, false⟩ := by
      unfold ExtendedMantissa.shiftRightOne
      rw [pow_succ, ← mul_assoc]
      simp
    rw [show k + 1 + n = k + n + 1 by omega, repeat_succ, hone, ih]

/-- Each zero at the end makes a mantissa longer by one place. -/
theorem log2_mul_two_pow (hm : 0 < m) (k : ℕ) : (m * 2 ^ k).log2 = m.log2 + k := by
  induction k with
  | zero => rw [pow_zero, mul_one, add_zero]
  | succ k ih =>
    rw [pow_succ, ← mul_assoc, mul_comm _ 2, Nat.log2_two_mul (by positivity), ih, add_assoc]

/-- Zeros at the end of a mantissa make no difference to rounding. -/
theorem roundWithAccuracy_mul_two_pow (hm : 0 < m)
    (he : e ≤ spec.targetExponent (totalExponent m e)) (k : ℕ) :
    roundWithAccuracy spec sign (m * 2 ^ k) (e - k) .exact =
      roundWithAccuracy spec sign m e .exact := by
  -- the first place of the number is where it was, so it is rounded at the same place
  have htotal : totalExponent (m * 2 ^ k) (e - k) = totalExponent m e := by
    unfold totalExponent
    rw [log2_mul_two_pow hm]
    push_cast
    ring
  have hshift : shiftToTargetExponent spec (m * 2 ^ k) (e - k) .exact =
      shiftToTargetExponent spec m e .exact := by
    obtain ⟨n, hn⟩ := Int.eq_ofNat_of_zero_le (sub_nonneg.mpr he)
    unfold shiftToTargetExponent shiftToExponent
    dsimp only
    rw [htotal, hn, show spec.targetExponent (totalExponent m e) - (e - k) = (k + n : ℕ) by omega,
      Int.toNat_natCast, Int.toNat_natCast]
    refine Prod.ext (shiftRight_mul_two_pow m k n) ?_
    push_cast
    ring
  unfold roundWithAccuracy
  rw [hshift]

/-- A mantissa that fits is not rounded. -/
theorem roundWithAccuracy_of_target (hm : 0 < m)
    (he : spec.targetExponent (totalExponent m e) = e) :
    roundWithAccuracy spec sign m e .exact = .finite sign m e hm := by
  have hshift : shiftToTargetExponent spec m e .exact = (⟨m, false, false⟩, e) := by
    unfold shiftToTargetExponent shiftToExponent
    dsimp only
    rw [he, sub_self]
    exact Prod.ext rfl (add_zero e)
  unfold roundWithAccuracy
  rw [hshift]
  dsimp only
  rw [show ExtendedMantissa.roundedMantissa ⟨m, false, false⟩ = m from rfl, hshift]
  exact dif_neg hm.ne'

end RemoteUi.Binary
