/-
# RemoteUi.Proofs.Single.Arithmetic — single precision computes with rounded numbers.

Opacities are numbers of single precision, and what becomes of them in a transition is computed by
the operations of the machine.  Here those operations are told by the rational numbers that their
arguments denote: the sum, the difference, the product and the quotient of two numbers denote the
exact result, rounded (`Denotes.add`, `Denotes.sub`, `Denotes.mul`, `Denotes.div`).

The results hold as long as the exact result is not negative and at most `2 ^ 100`.  Both bounds are
far from what an opacity or a time needs, and they keep signs, overflow and infinity out of every
proof.  Each operation goes by cases on what the two arguments are: a zero of either sign, or a
mantissa with an exponent.

* Sum and difference are taken at the lesser of the two exponents (`exists_common`), at which they
  are whole numbers, and `denotes_normalize` rounds them.
* A product has a mantissa of at most 48 bits, all of which are there when it is rounded.
* A quotient is computed to as many places as its unit asks for (`targetExponent_le_unit_div`), and
  what is left over is kept in two bits (`represents_div`).

The order is that of the numbers denoted (`Denotes.lt_iff`, `Denotes.le_iff`), so that inequalities
of opacities can be shown where they are easy, among rationals.
-/
import RemoteUi.Proofs.Single.Denotation

namespace RemoteUi.Single

open Float.Model (UnpackedFloat totalExponent)
open Float.Model.UnpackedFloat (ExtendedMantissa)

/-! ## Arithmetic -/

variable {x y : Float32} {p q : ℚ}

/-- No number that is denoted is negative, since negative ones denote nothing here. -/
theorem Denotes.nonneg (h : Denotes x p) : 0 ≤ p := by
  cases h with
  | zero => exact le_rfl
  | finite => positivity

/-- What a number of single precision denotes is not rounded. -/
theorem Denotes.rounded_eq (h : Denotes x p) : rounded p = p := by
  cases h with
  | zero => exact rounded_zero
  | finite hm hcanonical => exact rounded_of_places hcanonical.lt hcanonical.neg_149_le

/-- A natural number of 64 bits is made to the nearest number of single precision. -/
theorem denotes_toFloat32 {n : ℕ} (hn : n < 2 ^ 64) :
    Denotes n.toUInt64.toFloat32 (rounded n) := by
  -- 64 bits are far below the bound under which normalizing rounds
  have hmax : (n : ℚ) * 2 ^ (0 : ℤ) ≤ 2 ^ 100 := by
    rw [zpow_zero, mul_one]
    exact_mod_cast hn.le.trans (by norm_num)
  have hnormal := denotes_normalize hmax
  rw [zpow_zero, mul_one] at hnormal
  have hnat : n.toUInt64.toNat = n := UInt64.toNat_ofNat_of_lt hn
  show Denotes ⟨.pack (.normalize .binary32 (n.toUInt64.toNat : ℕ) 0 .positive)⟩ _
  rwa [hnat]

/-- Two numbers with an exponent in common. -/
theorem exists_common (m m' : ℕ) (e e' : ℤ) :
    ∃ k k' : ℕ, (UnpackedFloat.decreaseExponent m e (min e e')).1 = k ∧
      (UnpackedFloat.decreaseExponent m' e' (min e e')).1 = k' ∧
      (m : ℚ) * 2 ^ e = k * 2 ^ min e e' ∧ (m' : ℚ) * 2 ^ e' = k' * 2 ^ min e e' := by
  obtain ⟨k, hk, hvalue⟩ := decreaseExponent_eq m e (min e e')
  obtain ⟨k', hk', hvalue'⟩ := decreaseExponent_eq m' e' (min e e')
  rw [min_eq_right (min_le_left e e')] at hvalue
  rw [min_eq_right (min_le_right e e')] at hvalue'
  exact ⟨k, k', congrArg Prod.fst hk, congrArg Prod.fst hk', hvalue.symm, hvalue'.symm⟩

/-- The sum is the exact one, rounded. -/
theorem Denotes.add (hx : Denotes x p) (hy : Denotes y q) (hmax : p + q ≤ 2 ^ 100) :
    Denotes (x + y) (rounded (p + q)) := by
  have hp := hx.rounded_eq
  have hq := hy.rounded_eq
  show Denotes ⟨.pack (.add .binary32 x.toModel.unpack y.toModel.unpack)⟩ _
  -- a zero on either side leaves the other number, which is not rounded again
  cases hx with
  | zero hx =>
    rw [zero_add, hq, hx]
    cases hy with
    | zero hy =>
      rw [hy]
      unfold UnpackedFloat.add
      dsimp only
      split
      · exact denotes_pack_zero _
      · exact denotes_pack_zero _
    | finite hm hcanonical hy =>
      rw [hy]
      exact denotes_pack hm hcanonical
  | @finite m e hm hcanonical hx =>
    rw [hx]
    cases hy with
    | zero hy =>
      rw [add_zero, hp, hy]
      exact denotes_pack hm hcanonical
    | @finite m' e' hm' hcanonical' hy =>
      rw [hy]
      -- at the lesser exponent both are whole numbers, and so is their sum
      obtain ⟨k, k', hk, hk', hm, hm'⟩ := exists_common m m' e e'
      have hsum : (m : ℚ) * 2 ^ e + m' * 2 ^ e' = (k + k' : ℕ) * 2 ^ min e e' := by
        rw [hm, hm', Nat.cast_add, add_mul]
      unfold UnpackedFloat.add
      dsimp only
      rw [hk, hk', hsum]
      exact denotes_normalize (hsum ▸ hmax)

/-- The difference is the exact one, rounded, if it is not negative. -/
theorem Denotes.sub (hx : Denotes x p) (hy : Denotes y q) (hle : q ≤ p) (hmax : p ≤ 2 ^ 100) :
    Denotes (x - y) (rounded (p - q)) := by
  have hp := hx.rounded_eq
  show Denotes ⟨.pack (.sub .binary32 x.toModel.unpack y.toModel.unpack)⟩ _
  -- the number that is taken away comes first: without it nothing is to be done
  cases hy with
  | @zero sign hy =>
    rw [sub_zero, hp, hy]
    cases hx with
    | zero hx =>
      rw [hx]
      unfold UnpackedFloat.sub
      dsimp only
      split
      · exact denotes_pack_zero _
      · exact denotes_pack_zero _
    | finite hm hcanonical hx =>
      rw [hx]
      exact denotes_pack hm hcanonical
  | @finite m' e' hm' hcanonical' hy =>
    rw [hy]
    cases hx with
    | zero hx =>
      -- nothing but zero can be taken away from zero
      have hpos : (0 : ℚ) < m' * 2 ^ e' := by positivity
      exact absurd hle (not_le.mpr hpos)
    | @finite m e hm hcanonical hx =>
      rw [hx]
      obtain ⟨k, k', hk, hk', hm, hm'⟩ := exists_common m m' e e'
      have hpow : (0 : ℚ) < 2 ^ min e e' := by positivity
      -- natural numbers subtract as rationals do, since the lesser is taken from the greater
      have hkk' : k' ≤ k := by
        rw [hm, hm', mul_le_mul_iff_left₀ hpow] at hle
        exact Nat.cast_le.mp hle
      have hdiff : (m : ℚ) * 2 ^ e - m' * 2 ^ e' = (k - k' : ℕ) * 2 ^ min e e' := by
        rw [hm, hm', Nat.cast_sub hkk', sub_mul]
      have hint : UnpackedFloat.Sign.apply .positive k - UnpackedFloat.Sign.apply .positive k' =
          ((k - k' : ℕ) : ℤ) := (Int.ofNat_sub hkk').symm
      unfold UnpackedFloat.sub
      dsimp only
      rw [hk, hk', hdiff, hint]
      refine denotes_normalize ?_
      rw [← hdiff]
      have hpos : (0 : ℚ) < m' * 2 ^ e' := by positivity
      linarith

/-- The product is the exact one, rounded. -/
theorem Denotes.mul (hx : Denotes x p) (hy : Denotes y q) (hmax : p * q ≤ 2 ^ 100) :
    Denotes (x * y) (rounded (p * q)) := by
  show Denotes ⟨.pack (.mul .binary32 x.toModel.unpack y.toModel.unpack)⟩ _
  cases hx with
  | zero hx =>
    rw [zero_mul, rounded_zero, hx]
    cases hy with
    | zero hy =>
      rw [hy]
      exact denotes_pack_zero _
    | finite hm hcanonical hy =>
      rw [hy]
      exact denotes_pack_zero _
  | @finite m e hm hcanonical hx =>
    rw [hx]
    cases hy with
    | zero hy =>
      rw [mul_zero, rounded_zero, hy]
      exact denotes_pack_zero _
    | @finite m' e' hm' hcanonical' hy =>
      rw [hy]
      -- the mantissas are multiplied and the exponents are added, without loss
      have hproduct : (m : ℚ) * 2 ^ e * (m' * 2 ^ e') = (m * m' : ℕ) * 2 ^ (e + e') := by
        rw [zpow_add₀ two_ne_zero]
        push_cast
        ring
      rw [hproduct] at hmax ⊢
      have hpos : 0 < m * m' := Nat.mul_pos hm hm'
      have hv : (0 : ℚ) < (m * m' : ℕ) * 2 ^ (e + e') := by positivity
      refine denotes_roundWithAccuracy hv hmax ?_ ?_
      · -- the product has no fewer places than one of the factors, or both are the least
        by_contra hlt
        obtain ⟨hup, hleast⟩ := (unit_le_iff hv).mp (by omega : _ ≤ e + e' - 1)
        rw [show e + e' - 1 + 24 = e + e' + (23 : ℕ) by push_cast; ring, ← natCast_two_pow_mul,
          mul_lt_mul_iff_left₀ (by positivity), Nat.cast_lt] at hup
        have he := hcanonical.eq_neg_149 ((Nat.le_mul_of_pos_right m hm').trans_lt hup)
        have he' := hcanonical'.eq_neg_149 ((Nat.le_mul_of_pos_left m' hm).trans_lt hup)
        omega
      · rw [mul_div_cancel_right₀ _ (by positivity)]
        exact represents_exact (m * m')

/-- The bits of a quotient, and what is left over. -/
theorem represents_div (n : ℕ) {d : ℕ} (hd : 0 < d) :
    Represents (.ofMantissaAndAccuracy (n / d) (UnpackedFloat.accuracyOfFraction (n % d) d))
      (n / d) := by
  have hdpos : (0 : ℚ) < d := Nat.cast_pos.mpr hd
  have hn : (n : ℚ) / d = (n / d : ℕ) + (n % d : ℕ) / d := by
    rw [div_eq_iff hdpos.ne', add_mul, div_mul_cancel₀ _ hdpos.ne']
    exact_mod_cast (Nat.div_add_mod' n d).symm
  have hlt : ((n % d : ℕ) : ℚ) / d < 1 := by
    rw [div_lt_one hdpos]
    exact Nat.cast_lt.mpr (Nat.mod_lt n hd)
  rw [hn]
  unfold UnpackedFloat.accuracyOfFraction
  split
  · rename_i hzero
    rw [hzero]
    exact ⟨0, by simp [ExtendedMantissa.ofMantissaAndAccuracy], rfl⟩
  · rename_i hrest
    have hpos : (0 : ℚ) < (n % d : ℕ) / d := by
      have hrest : 0 < n % d := Nat.pos_of_ne_zero hrest
      positivity
    have hhalf : (2 * (n % d) < d ↔ ((n % d : ℕ) : ℚ) / d < 1 / 2) ∧
        (2 * (n % d) = d ↔ ((n % d : ℕ) : ℚ) / d = 1 / 2) := by
      rw [div_lt_div_iff₀ hdpos two_pos, div_eq_div_iff hdpos.ne' two_ne_zero]
      norm_cast
      omega
    -- the rest is compared with half of the divisor: this is what the two bits say
    rcases lt_trichotomy (2 * (n % d)) d with h | h | h
    · rw [compare_lt_iff_lt.mpr h]
      refine ⟨(n % d : ℕ) / d, ?_, hpos, hhalf.1.mp h⟩
      simp [ExtendedMantissa.ofMantissaAndAccuracy]
    · rw [compare_eq_iff_eq.mpr h]
      refine ⟨0, ?_, rfl⟩
      simp [ExtendedMantissa.ofMantissaAndAccuracy, hhalf.2.mp h]
    · rw [compare_gt_iff_gt.mpr h]
      have hgt : 1 / 2 < ((n % d : ℕ) : ℚ) / d := by
        refine lt_of_le_of_ne (not_lt.mp fun hlt => ?_) fun heq => ?_
        · exact absurd (hhalf.1.mpr hlt) (by omega)
        · exact absurd (hhalf.2.mpr heq.symm) (by omega)
      refine ⟨(n % d : ℕ) / d - 1 / 2, ?_, ?_⟩
      · simp [ExtendedMantissa.ofMantissaAndAccuracy]
      · exact ⟨by linarith, by linarith⟩

/-- A quotient is computed with places enough. -/
theorem targetExponent_le_unit_div {m m' : ℕ} (hm : 0 < m) (hm' : 0 < m') (e e' : ℤ) :
    Float.Model.Format.binary32.targetExponent (totalExponent m e - totalExponent m' e') ≤
      unit (m * 2 ^ e / (m' * 2 ^ e')) := by
  have hv : (0 : ℚ) < m * 2 ^ e / (m' * 2 ^ e') := by positivity
  show max ((m.log2 : ℤ) + 1 + e - (m'.log2 + 1 + e') - 24) (-149) ≤ _
  refine max_le ?_ (neg_149_le_unit _)
  by_contra hlt
  -- if the unit were lower, the quotient would be less than the power of two that the first places
  -- of both mantissas say it reaches
  have hup := ((unit_le_iff hv).mp (by omega :
    _ ≤ (m.log2 : ℤ) + e - (m'.log2 + 1 + e') - 24)).1
  rw [sub_add_cancel] at hup
  refine absurd hup (not_lt.mpr ?_)
  calc (2 : ℚ) ^ ((m.log2 : ℤ) + e - (m'.log2 + 1 + e'))
      = (2 ^ m.log2 : ℕ) * 2 ^ e / ((2 ^ (m'.log2 + 1) : ℕ) * 2 ^ e') := by
        rw [natCast_two_pow_mul, natCast_two_pow_mul, ← zpow_sub₀ two_ne_zero]
        congr 1
        push_cast
        ring
    _ ≤ m * 2 ^ e / (m' * 2 ^ e') := by
        gcongr
        · exact Nat.log2_self_le hm.ne'
        · exact Nat.lt_log2_self.le

/-- The quotient by a number that is not zero is the exact one, rounded. -/
theorem Denotes.div (hx : Denotes x p) (hy : Denotes y q) (hpos : 0 < q) (hmax : p / q ≤ 2 ^ 100) :
    Denotes (x / y) (rounded (p / q)) := by
  show Denotes ⟨.pack (.div .binary32 x.toModel.unpack y.toModel.unpack)⟩ _
  cases hy with
  | zero hy => exact absurd hpos (lt_irrefl 0)
  | @finite m' e' hm' hcanonical' hy =>
    rw [hy]
    cases hx with
    | zero hx =>
      rw [zero_div, rounded_zero, hx]
      exact denotes_pack_zero _
    | @finite m e hm hcanonical hx =>
      rw [hx]
      have hunit := (min_le_right (e - e') _).trans
        (targetExponent_le_unit_div hm hm' e e')
      have hle := min_le_left (e - e')
        (Float.Model.Format.binary32.targetExponent (totalExponent m e - totalExponent m' e'))
      -- the places to compute are chosen before the division; all that matters of them is that they
      -- are no more than the exponents allow and no less than the unit asks for
      unfold UnpackedFloat.div UnpackedFloat.divCore
      dsimp only
      generalize min (e - e') _ = t at hunit hle ⊢
      have hv : (0 : ℚ) < m * 2 ^ e / (m' * 2 ^ e') := by positivity
      refine denotes_roundWithAccuracy hv hmax hunit ?_
      -- the dividend is shifted up by as many places, and then the division is one of whole numbers
      obtain ⟨k, hk⟩ := Int.eq_ofNat_of_zero_le (sub_nonneg.mpr hle)
      have hscale : (m : ℚ) * 2 ^ e / (m' * 2 ^ e') / 2 ^ t = (m * 2 ^ k : ℕ) / m' := by
        have hpow : (2 : ℚ) ^ e = 2 ^ k * 2 ^ e' * 2 ^ t := by
          rw [← zpow_natCast, ← zpow_add₀ two_ne_zero, ← zpow_add₀ two_ne_zero, ← hk]
          congr 1
          ring
        rw [hpow]
        push_cast
        field_simp
      rw [hscale, hk, Int.toNat_natCast, Nat.shiftLeft_eq]
      exact represents_div _ hm'

/-! ## Order -/

/-- A mantissa has 24 bits at most. -/
theorem Canonical.mul_lt_two_pow {m : ℕ} {e : ℤ} (h : Canonical m e) :
    (m : ℚ) * 2 ^ e < 2 ^ (e + 24) := by
  have hm : (m : ℚ) < (2 ^ 24 : ℕ) := Nat.cast_lt.mpr h.lt
  calc (m : ℚ) * 2 ^ e < (2 ^ 24 : ℕ) * 2 ^ e := by gcongr
    _ = 2 ^ (e + 24) := natCast_two_pow_mul 24 e

/-- The larger exponent tells the larger number. -/
theorem Canonical.lt_of_lt {m m' : ℕ} {e e' : ℤ} (h : Canonical m e) (h' : Canonical m' e')
    (he : e < e') : (m : ℚ) * 2 ^ e < m' * 2 ^ e' := by
  -- the larger exponent is not the least one, so its mantissa is full
  have hm' : 2 ^ 23 ≤ m' := by
    refine h'.normal.resolve_right fun heq => ?_
    exact absurd h.neg_149_le (by omega)
  calc (m : ℚ) * 2 ^ e < 2 ^ (e + 24) := h.mul_lt_two_pow
    _ ≤ 2 ^ (e' + 23) := zpow_le_zpow_right₀ one_le_two (by omega)
    _ = (2 ^ 23 : ℕ) * 2 ^ e' := (natCast_two_pow_mul 23 e').symm
    _ ≤ m' * 2 ^ e' := by
        gcongr

/-- Numbers are compared by their exponents, and then by their mantissas; that is the order of what
they denote, as mantissas are canonical. -/
theorem Denotes.compare_eq (hx : Denotes x p) (hy : Denotes y q) :
    x.toModel.unpack.compare y.toModel.unpack = some (compare p q) := by
  cases hx with
  | zero hx =>
    rw [hx]
    cases hy with
    | zero hy =>
      rw [hy]
      rfl
    | finite hm hcanonical hy =>
      rw [hy, compare_lt_iff_lt.mpr (by positivity)]
      rfl
  | @finite m e hm hcanonical hx =>
    rw [hx]
    cases hy with
    | zero hy =>
      rw [hy, compare_gt_iff_gt.mpr (by positivity)]
      rfl
    | @finite m' e' hm' hcanonical' hy =>
      rw [hy]
      show some ((compare e e').then (compare m m')) = _
      -- where the exponents differ, the mantissas need not be looked at
      rcases lt_trichotomy e e' with he | rfl | he
      · rw [compare_lt_iff_lt.mpr he, compare_lt_iff_lt.mpr (hcanonical.lt_of_lt hcanonical' he)]
        rfl
      · have hpow : (0 : ℚ) < 2 ^ e := by positivity
        rw [compare_eq_iff_eq.mpr rfl]
        show some (compare m m') = _
        rcases lt_trichotomy m m' with hm | rfl | hm
        · rw [compare_lt_iff_lt.mpr hm, compare_lt_iff_lt.mpr]
          exact mul_lt_mul_of_pos_right (Nat.cast_lt.mpr hm) hpow
        · rw [compare_eq_iff_eq.mpr rfl, compare_eq_iff_eq.mpr rfl]
        · rw [compare_gt_iff_gt.mpr hm, compare_gt_iff_gt.mpr]
          exact mul_lt_mul_of_pos_right (Nat.cast_lt.mpr hm) hpow
      · rw [compare_gt_iff_gt.mpr he, compare_gt_iff_gt.mpr (hcanonical'.lt_of_lt hcanonical he)]
        rfl

theorem float_lt_iff : x < y ↔ x.toModel.unpack.lt y.toModel.unpack = true :=
  decide_eq_true_iff

theorem float_le_iff : x ≤ y ↔ x.toModel.unpack.le y.toModel.unpack = true :=
  decide_eq_true_iff

theorem Denotes.lt_iff (hx : Denotes x p) (hy : Denotes y q) : x < y ↔ p < q := by
  rw [float_lt_iff, UnpackedFloat.lt, hx.compare_eq hy, beq_iff_eq, Option.some.injEq]
  exact compare_lt_iff_lt

theorem Denotes.le_iff (hx : Denotes x p) (hy : Denotes y q) : x ≤ y ↔ p ≤ q := by
  rw [float_le_iff, UnpackedFloat.le, hx.compare_eq hy, Option.any_some]
  exact Ordering.isLE_iff_ne_gt.trans compare_le_iff_le

/-! ## Constants -/

theorem denotes_zero : Denotes 0 0 :=
  @Denotes.zero 0 .positive rfl

/-- One, with its mantissa brought up to 24 bits. -/
theorem denotes_one : Denotes 1 1 := by
  have hvalue : (1 : ℚ) = (2 ^ 23 : ℕ) * 2 ^ (-23 : ℤ) := by norm_num
  rw [hvalue]
  exact .finite (by decide) ⟨by decide, by decide, by decide, Or.inl le_rfl⟩ rfl

theorem denotes_half : Denotes 0.5 (1 / 2) := by
  have hvalue : (1 / 2 : ℚ) = (2 ^ 23 : ℕ) * 2 ^ (-24 : ℤ) := by norm_num
  rw [hvalue]
  exact .finite (by decide) ⟨by decide, by decide, by decide, Or.inl le_rfl⟩ rfl

/-- The difference from one to a number that is no less than a half has no place more than the number
has, and is not rounded. -/
theorem Denotes.rounded_one_sub (hx : Denotes x p) (hhalf : 1 / 2 ≤ p) (hone : p ≤ 1) :
    rounded (1 - p) = 1 - p := by
  cases hx with
  | zero => norm_num at hhalf
  | @finite m e hm hcanonical =>
    -- a number no less than a half has its last place at `2 ^ -24` or above
    have he : 0 ≤ e + 24 := by
      by_contra hlow
      have hlt := hcanonical.mul_lt_two_pow
      have hle : (2 : ℚ) ^ (e + 24) ≤ 2 ^ (-1 : ℤ) := zpow_le_zpow_right₀ one_le_two (by omega)
      norm_num at hle hhalf
      linarith
    obtain ⟨k, hk⟩ := Int.eq_ofNat_of_zero_le he
    have hvalue : (m : ℚ) * 2 ^ e = (m * 2 ^ k : ℕ) * 2 ^ (-24 : ℤ) := by
      rw [Nat.cast_mul, mul_assoc, natCast_two_pow_mul, ← hk]
      congr 2
      ring
    have hunit : (1 : ℚ) = (2 ^ 24 : ℕ) * 2 ^ (-24 : ℤ) := by norm_num
    have hle : m * 2 ^ k ≤ 2 ^ 24 := by
      rw [hvalue, hunit, mul_le_mul_iff_left₀ (by positivity)] at hone
      exact Nat.cast_le.mp hone
    have hpos : 0 < m * 2 ^ k := by positivity
    -- at that place the difference is a whole number of at most 24 bits
    have hdiff : 1 - (m : ℚ) * 2 ^ e = (2 ^ 24 - m * 2 ^ k : ℕ) * 2 ^ (-24 : ℤ) := by
      rw [hvalue, Nat.cast_sub hle, sub_mul, ← hunit]
    rw [hdiff]
    exact rounded_of_places (by omega) (by norm_num)

end RemoteUi.Single
