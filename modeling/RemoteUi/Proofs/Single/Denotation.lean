/-
# RemoteUi.Proofs.Single.Denotation — the number that single precision stands for.

A number of single precision denotes a rational one (`Denotes`), unless it is negative or no number:
zero, or a mantissa times a power of two.  The pair is canonical (`Canonical`): the mantissa has 24
bits, and its first is a one unless the exponent is the least there is.

Every operation computes a mantissa with more bits than there is room for, or with a rest, and then
rounds.  The mantissa with the two bits that stand for its rest represents the exact result
(`Represents`): the first bit for a half of the last place, the second for anything that is less.
Three facts about it carry all that follows:

* moving a bit out on the right halves what is represented, and the two bits still stand for the
  rest (`Represents.shiftRight`);
* rounding by the two bits is rounding to the nearest whole number, a half to the even one
  (`Represents.roundedMantissa`);
* the first bits of a number tell the place to which it is rounded (`targetExponent_eq`).

So what is made of a mantissa with its rest denotes the exact result, rounded
(`denotes_roundWithAccuracy`); a carry into a 25th bit is a case of its own.  A whole number times a
power of two is the case without a rest (`denotes_normalize`).
-/
import Mathlib
import RemoteUi.Proofs.Binary.Packing
import RemoteUi.Proofs.Single.Rounding

namespace RemoteUi.Single

open Float.Model (UnpackedFloat totalExponent)
open Float.Model.UnpackedFloat (ExtendedMantissa Accuracy Sign packComponents shiftToTargetExponent)

variable {em : ExtendedMantissa} {v : ℚ}

/-! ## The bits after the last place -/

/-- A mantissa with its two residual bits stands for a number: the first bit for a half, the second
for anything that is less. -/
def Represents (em : ExtendedMantissa) (v : ℚ) : Prop :=
  ∃ rest : ℚ, v = em.mantissa + (if em.roundBit then 1 / 2 else 0) + rest ∧
    if em.stickyBit then 0 < rest ∧ rest < 1 / 2 else rest = 0

/-- Without a rest both bits are off. -/
theorem represents_exact (m : ℕ) : Represents (.ofMantissaAndAccuracy m .exact) m :=
  ⟨0, by simp [ExtendedMantissa.ofMantissaAndAccuracy], rfl⟩

/-- The bit that goes out becomes the first of the two, and the second takes up what both said
before. -/
theorem Represents.shiftRightOne (h : Represents em v) : Represents em.shiftRightOne (v / 2) := by
  obtain ⟨m, roundBit, stickyBit⟩ := em
  obtain ⟨rest, hv, hrest⟩ := h
  dsimp only at hv hrest
  refine ⟨((if roundBit then 1 / 2 else 0) + rest) / 2, ?_, ?_⟩
  · -- the bit that goes out is the remainder by two
    have hm : (m : ℚ) = (m % 2 : ℕ) + 2 * (m / 2 : ℕ) := by exact_mod_cast (Nat.mod_add_div m 2).symm
    show v / 2 = (m / 2 : ℕ) + (if m % 2 != 0 then 1 / 2 else 0) + _
    rw [hv, hm]
    rcases Nat.mod_two_eq_zero_or_one m with hpar | hpar <;> rw [hpar] <;> norm_num <;> ring
  · show if roundBit || stickyBit then _ else _
    -- in each of the four cases the rest is what the bits say it is
    cases roundBit <;> cases stickyBit <;> norm_num at hrest ⊢
    · exact hrest
    · exact ⟨hrest.1, by linarith [hrest.2]⟩
    · rw [hrest]
      norm_num
    · exact ⟨by linarith [hrest.1], by linarith [hrest.2]⟩

theorem Represents.shiftRight (h : Represents em v) (n : ℕ) :
    Represents (em >>> n) (v / 2 ^ n) := by
  show Represents (n.repeat ExtendedMantissa.shiftRightOne em) _
  induction n with
  | zero => rwa [pow_zero, div_one]
  | succ n ih =>
    rw [pow_succ, ← div_div]
    exact ih.shiftRightOne

/-- The two bits suffice to round to the nearest whole number. -/
theorem Represents.roundedMantissa (h : Represents em v) : em.roundedMantissa = nearest v := by
  obtain ⟨m, roundBit, stickyBit⟩ := em
  obtain ⟨rest, rfl, hrest⟩ := h
  -- no rest, less than a half, exactly a half, more than a half
  cases roundBit <;> cases stickyBit <;> norm_num at hrest ⊢
  · rw [hrest, add_zero, nearest_natCast]
    rfl
  · rw [nearest_of_lt (k := m) (by linarith) (by linarith)]
    rfl
  · rw [hrest, add_zero, nearest_of_half rfl]
    rfl
  · rw [nearest_of_gt (k := m) (by linarith) (by linarith)]
    rfl

/-! ## Numbers that can be written down -/

/-- The last place of a mantissa is the unit, and the exponent is in range. -/
structure Canonical (m : ℕ) (e : ℤ) : Prop where
  lt : m < 2 ^ 24
  neg_149_le : -149 ≤ e
  le_104 : e ≤ 104
  normal : 2 ^ 23 ≤ m ∨ e = -149

theorem Canonical.eq_neg_149 {m : ℕ} {e : ℤ} (h : Canonical m e) (hm : m < 2 ^ 23) : e = -149 :=
  h.normal.resolve_left (not_le.mpr hm)

/-- A mantissa without its first bit is read back under the least exponent. -/
theorem unpack_subnormal {m : ℕ} (hm : 0 < m) (hm' : m < 2 ^ 23) :
    UnpackedFloat.unpack .binary32 (packComponents .binary32 .positive 0#8 (BitVec.ofNat 23 m)) =
      .finite .positive m (-149) hm := by
  have hmantissa : (BitVec.ofNat 23 m).toNat = m := by
    rw [BitVec.toNat_ofNat, Nat.mod_eq_of_lt hm']
  have hzero : BitVec.ofNat 23 m ≠ 0#23 := by
    intro heq
    have htoNat := congrArg BitVec.toNat heq
    rw [hmantissa] at htoNat
    exact absurd htoNat hm.ne'
  have hall : (0#8 : BitVec 8) ≠ -1#8 := by decide
  unfold UnpackedFloat.unpack
  simp only [UnpackedFloat.unpackMantissa_packComponents, UnpackedFloat.unpackExponent_packComponents,
    UnpackedFloat.unpackSign_packComponents, if_neg hall, dif_neg hzero, if_true, hmantissa]
  rfl

/-- What is packed is read back, if it is canonical. -/
theorem unpack_pack {m : ℕ} {e : ℤ} (hm : 0 < m) (h : Canonical m e) :
    UnpackedFloat.unpack .binary32 (UnpackedFloat.pack .binary32 (.finite .positive m e hm)) =
      .finite .positive m e hm := by
  obtain ⟨hlt, hleast, hmax, hnormal⟩ := h
  by_cases hm23 : 2 ^ 23 ≤ m
  · refine Binary.unpack_pack_normal hm23 hlt ?_ ?_ hm
    · show 0 < e + (127 + 23)
      omega
    · show e + (127 + 23) + 1 < (2 ^ 8 : ℕ)
      omega
  · -- there is no first place to be left out
    have hlog : m.log2 < 23 := (Nat.log2_lt hm.ne').mpr (not_le.mp hm23)
    have hover : ¬ 2 ^ 8 ≤ (e + 127 + 23).toNat + 1 := by omega
    obtain rfl := hnormal.resolve_left hm23
    unfold UnpackedFloat.pack
    show UnpackedFloat.unpack .binary32 (if 2 ^ 8 ≤ (-149 + 127 + 23 : ℤ).toNat + 1 then _ else
      if m.log2 + 1 = 24 then _ else _) = _
    rw [if_neg hover, if_neg (by omega)]
    exact unpack_subnormal hm (not_le.mp hm23)

/-- A number of single precision that is neither negative nor an overflow is that rational number. -/
inductive Denotes (x : Float32) : ℚ → Prop
  | zero {sign : Sign} (h : x.toModel.unpack = .zero sign) : Denotes x 0
  | finite {m : ℕ} {e : ℤ} (hm : 0 < m) (hcanonical : Canonical m e)
      (h : x.toModel.unpack = .finite .positive m e hm) : Denotes x (m * 2 ^ e)

theorem denotes_pack_zero (sign : Sign) : Denotes ⟨.pack (.zero sign)⟩ 0 :=
  .zero UnpackedFloat.unpack_packedZero

/-- A canonical mantissa that is packed denotes its number. -/
theorem denotes_pack {m : ℕ} {e : ℤ} (hm : 0 < m) (h : Canonical m e) :
    Denotes ⟨.pack (.finite .positive m e hm)⟩ (m * 2 ^ e) :=
  .finite hm h (unpack_pack hm h)

/-! ## Rounding -/

/-- The mantissa is what is represented, rounded down. -/
theorem Represents.mantissa_le (h : Represents em v) : em.mantissa ≤ v := by
  obtain ⟨m, roundBit, stickyBit⟩ := em
  obtain ⟨rest, rfl, hrest⟩ := h
  cases roundBit <;> cases stickyBit <;> norm_num at hrest ⊢ <;> linarith

theorem Represents.lt_succ_mantissa (h : Represents em v) : v < (em.mantissa + 1 : ℕ) := by
  obtain ⟨m, roundBit, stickyBit⟩ := em
  obtain ⟨rest, rfl, hrest⟩ := h
  cases roundBit <;> cases stickyBit <;> norm_num at hrest ⊢ <;> linarith

theorem targetExponent_totalExponent (m : ℕ) (e : ℤ) :
    Float.Model.Format.binary32.targetExponent (totalExponent m e) =
      max ((m.log2 : ℤ) + 1 + e - 24) (-149) :=
  rfl

/-- The first bits of a number tell its unit. -/
theorem targetExponent_eq {m : ℕ} {e : ℤ} (hv : 0 < v) (he : m = 0 → e ≤ unit v) (hlow : m ≤ v / 2 ^ e)
    (hhigh : v / 2 ^ e < (m + 1 : ℕ)) :
    Float.Model.Format.binary32.targetExponent (totalExponent m e) = unit v := by
  have hpow : (0 : ℚ) < 2 ^ e := by positivity
  rw [targetExponent_totalExponent]
  apply le_antisymm
  · -- the place is no higher than the unit: the number reaches the first bit of the mantissa
    refine max_le ?_ (neg_149_le_unit v)
    rcases m.eq_zero_or_pos with rfl | hm
    · have he := he rfl
      rw [Nat.log2_zero]
      omega
    · -- the first place of the mantissa is one of the number
      by_contra hlt
      have hup := ((unit_le_iff hv).mp (by omega : unit v ≤ (m.log2 : ℤ) + e - 24)).1
      rw [sub_add_cancel] at hup
      refine absurd hup (not_lt.mpr ?_)
      calc (2 : ℚ) ^ ((m.log2 : ℤ) + e) = (2 ^ m.log2 : ℕ) * 2 ^ e := by
            rw [natCast_two_pow_mul, add_comm]
        _ ≤ m * 2 ^ e := by
            gcongr
            exact Nat.log2_self_le hm.ne'
        _ ≤ v := (le_div_iff₀ hpow).mp hlow
  · -- and no lower: the number is below the next power of two
    rw [unit_le_iff hv]
    refine ⟨?_, le_max_right _ _⟩
    calc v < (m + 1 : ℕ) * 2 ^ e := (div_lt_iff₀ hpow).mp hhigh
      _ ≤ (2 ^ (m.log2 + 1) : ℕ) * 2 ^ e := by
          gcongr
          exact Nat.lt_log2_self
      _ = 2 ^ (e + (m.log2 + 1 : ℕ)) := natCast_two_pow_mul _ e
      _ ≤ 2 ^ (max ((m.log2 : ℤ) + 1 + e - 24) (-149) + 24) := by
          refine zpow_le_zpow_right₀ one_le_two ?_
          push_cast
          omega

/-- A mantissa of no more than 24 bits stays as it is. -/
theorem shiftToTargetExponent_of_lt {m : ℕ} {e : ℤ} (hm : m < 2 ^ 24) (he : -149 ≤ e) :
    shiftToTargetExponent .binary32 m e .exact = (⟨m, false, false⟩, e) := by
  have hlog : m.log2 < 24 := by
    rcases m.eq_zero_or_pos with rfl | hpos
    · rw [Nat.log2_zero]
      decide
    · exact (Nat.log2_lt hpos.ne').mpr hm
  have hamount : (max ((m.log2 : ℤ) + 1 + e - 24) (-149) - e).toNat = 0 := by omega
  unfold shiftToTargetExponent UnpackedFloat.shiftToExponent
  dsimp only
  rw [targetExponent_totalExponent, hamount, Nat.cast_zero, add_zero]
  rfl

/-- The carry into one bit more. -/
theorem shiftToTargetExponent_carry {e : ℤ} (he : -149 ≤ e) :
    shiftToTargetExponent .binary32 (2 ^ 24) e .exact = (⟨2 ^ 23, false, false⟩, e + 1) := by
  have hamount : (max (((2 ^ 24).log2 : ℤ) + 1 + e - 24) (-149) - e).toNat = 1 := by
    rw [Nat.log2_two_pow]
    omega
  unfold shiftToTargetExponent UnpackedFloat.shiftToExponent
  dsimp only
  rw [targetExponent_totalExponent, hamount]
  rfl

/-- A number that is rounded at its unit has a canonical mantissa, unless rounding carries. -/
theorem canonical_units (hv : 0 < v) (hmax : v ≤ 2 ^ 100) (hlt : units v < 2 ^ 24) :
    Canonical (units v) (unit v) where
  lt := hlt
  neg_149_le := neg_149_le_unit v
  le_104 := by
    refine (unit_le_iff hv).mpr ⟨hmax.trans_lt ?_, by decide⟩
    norm_num
  normal := by
    rcases (neg_149_le_unit v).eq_or_lt with hleast | hleast
    · exact Or.inr hleast.symm
    · exact Or.inl (le_units hv hleast)

/-- The bits of a number, brought to its unit. -/
theorem shiftToTargetExponent_eq {m : ℕ} {e : ℤ} {accuracy : Accuracy} (hv : 0 < v)
    (he : e ≤ unit v) (h : Represents (.ofMantissaAndAccuracy m accuracy) (v / 2 ^ e)) :
    ∃ em, shiftToTargetExponent .binary32 m e accuracy = (em, unit v) ∧
      em.roundedMantissa = units v := by
  have hmantissa : (ExtendedMantissa.ofMantissaAndAccuracy m accuracy).mantissa = m := by
    cases accuracy with
    | exact => rfl
    | inexact o => cases o <;> rfl
  have htarget := targetExponent_eq hv (fun _ => he) (hmantissa ▸ h.mantissa_le)
    (hmantissa ▸ h.lt_succ_mantissa)
  obtain ⟨n, hn⟩ := Int.eq_ofNat_of_zero_le (sub_nonneg.mpr he)
  refine ⟨ExtendedMantissa.ofMantissaAndAccuracy m accuracy >>> n, ?_, ?_⟩
  · unfold shiftToTargetExponent UnpackedFloat.shiftToExponent
    dsimp only
    rw [htarget, hn, Int.toNat_natCast, ← hn, add_sub_cancel]
  · have hscale : v / 2 ^ e / 2 ^ n = v / 2 ^ unit v := by
      rw [div_div, ← zpow_natCast, ← zpow_add₀ two_ne_zero, ← hn, add_sub_cancel]
    rw [(h.shiftRight n).roundedMantissa, hscale, units]

/-- What is made of a mantissa with its rest denotes the exact number, rounded. -/
theorem denotes_roundWithAccuracy {m : ℕ} {e : ℤ} {accuracy : Accuracy} (hv : 0 < v)
    (hmax : v ≤ 2 ^ 100) (he : e ≤ unit v)
    (h : Represents (.ofMantissaAndAccuracy m accuracy) (v / 2 ^ e)) :
    Denotes ⟨.pack (.roundWithAccuracy .binary32 .positive m e accuracy)⟩ (rounded v) := by
  obtain ⟨em, hshift, hunits⟩ := shiftToTargetExponent_eq hv he h
  unfold UnpackedFloat.roundWithAccuracy
  rw [hshift]
  dsimp only
  rw [hunits]
  -- rounding to 24 bits can come to `2 ^ 24` itself, and then there is one bit too many
  rcases (units_le hv).lt_or_eq with hlt | heq
  · rw [shiftToTargetExponent_of_lt hlt (neg_149_le_unit v)]
    split
    · rename_i hzero
      rw [rounded, show units v = 0 from hzero, Nat.cast_zero, zero_mul]
      exact denotes_pack_zero .positive
    · exact denotes_pack _ (canonical_units hv hmax hlt)
  · -- all places are ones, and rounding carries into one more
    have hcarry : rounded v = (2 ^ 23 : ℕ) * 2 ^ (unit v + 1) := by
      rw [rounded, heq, natCast_two_pow_mul, natCast_two_pow_mul]
      congr 1
      push_cast
      ring
    have hunit : unit v ≤ 77 := by
      refine (unit_le_iff hv).mpr ⟨hmax.trans_lt ?_, by decide⟩
      norm_num
    rw [heq, shiftToTargetExponent_carry (neg_149_le_unit v), hcarry]
    refine denotes_pack (m := 2 ^ 23) (e := unit v + 1) (by decide)
      ⟨by decide, ?_, ?_, Or.inl le_rfl⟩
    · linarith [neg_149_le_unit v]
    · linarith

/-- A lower exponent leaves the number as it is. -/
theorem decreaseExponent_eq (m : ℕ) (e t : ℤ) :
    ∃ n : ℕ, UnpackedFloat.decreaseExponent m e t = (n, min e t) ∧
      (n : ℚ) * 2 ^ min e t = m * 2 ^ e := by
  have hamount : e - (e - t).toNat = min e t := by omega
  refine ⟨m * 2 ^ (e - t).toNat, ?_, ?_⟩
  · unfold UnpackedFloat.decreaseExponent
    dsimp only
    rw [Nat.shiftLeft_eq, hamount]
  · rw [Nat.cast_mul, mul_assoc, natCast_two_pow_mul, ← hamount, sub_add_cancel]

/-- A whole number with an exponent is rounded, whatever its exponent. -/
theorem denotes_normalize {n : ℕ} {e : ℤ} (hmax : (n : ℚ) * 2 ^ e ≤ 2 ^ 100) :
    Denotes ⟨.pack (.normalize .binary32 n e .positive)⟩ (rounded (n * 2 ^ e)) := by
  rcases n.eq_zero_or_pos with rfl | hn
  · have hzero : ((0 : ℕ) : ℚ) * 2 ^ e = 0 := by rw [Nat.cast_zero, zero_mul]
    rw [hzero, rounded_zero]
    exact denotes_pack_zero .positive
  have hv : (0 : ℚ) < n * 2 ^ e := by positivity
  have hscale : (n : ℚ) * 2 ^ e / 2 ^ e = n := mul_div_cancel_right₀ _ (by positivity)
  have htarget : Float.Model.Format.binary32.targetExponent (totalExponent n e) =
      unit (n * 2 ^ e) := by
    refine targetExponent_eq hv (fun hzero => absurd hzero hn.ne') hscale.ge ?_
    rw [hscale]
    exact Nat.cast_lt.mpr n.lt_succ_self
  rw [Binary.normalize_natCast hn]
  unfold UnpackedFloat.round
  -- the exponent is lowered first where it is above the unit, which changes nothing
  obtain ⟨k, hdecrease, hk⟩ := decreaseExponent_eq n e (unit (n * 2 ^ e))
  dsimp only
  rw [htarget, hdecrease]
  dsimp only
  have hwhole : n * 2 ^ e / 2 ^ min e (unit (n * 2 ^ e)) = (k : ℚ) :=
    (div_eq_iff (by positivity)).mpr hk.symm
  refine denotes_roundWithAccuracy hv hmax (min_le_right _ _) ?_
  rw [hwhole]
  exact represents_exact k

end RemoteUi.Single
