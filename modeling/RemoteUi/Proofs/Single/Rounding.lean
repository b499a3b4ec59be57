/-
# RemoteUi.Proofs.Single.Rounding — what single precision makes of a number.

What single precision makes of an exact result is told here for rational numbers, with nothing of
the machine in it.  A number that is not negative is rounded to the nearest multiple of its unit,
and from the middle to the even one.  The unit is the power of two that leaves 24 binary places, but
no less than the least one there is (`unit_le_iff`).

* `nearest` rounds to whole numbers.  That it keeps the order is clear between different whole
  numbers, and within one gap the two numbers are compared with its middle.
* `rounded` rounds to units.  It keeps the order (`rounded_le_rounded`): within one unit because
  `nearest` does, and across units because all places of the smaller number are below the first
  place of the larger one.  It leaves alone what has no more than 24 places (`rounded_of_places`).
* What rounding has added to a number can be added once more without effect (`rounded_reflect`).
  There is a case to it where the number is rounded up to a power of two, above which the unit is
  twice as large.

From the last follows what transitions need: a whole number rounded, plus one, is rounded to no more
than the next whole number is (`rounded_add_one_le`), so that counting time in single precision
never runs ahead of the clock.
-/
import Mathlib

namespace RemoteUi.Single

/-! ## Whole numbers -/

/-- The nearest whole number, the even one of two. -/
def nearest (x : ℚ) : ℕ :=
  if x < ⌊x⌋₊ + 1 / 2 then ⌊x⌋₊
  else if x = ⌊x⌋₊ + 1 / 2 then ⌊x⌋₊ + ⌊x⌋₊ % 2
  else ⌊x⌋₊ + 1

variable {x y : ℚ} {k : ℕ}

theorem nearest_of_lt (hk : k ≤ x) (hx : x < k + 1 / 2) : nearest x = k := by
  have hfloor : ⌊x⌋₊ = k := by
    rw [Nat.floor_eq_iff (k.cast_nonneg.trans hk)]
    exact ⟨hk, by linarith⟩
  rw [nearest, hfloor, if_pos hx]

/-- From the middle it goes to the even one of the two. -/
theorem nearest_of_half (hx : x = k + 1 / 2) : nearest x = k + k % 2 := by
  have hfloor : ⌊x⌋₊ = k := by
    rw [hx, Nat.floor_eq_iff (by positivity)]
    constructor <;> linarith
  rw [nearest, hfloor, if_neg (not_lt.mpr hx.ge), if_pos hx]

theorem nearest_of_gt (hk : k + 1 / 2 < x) (hx : x < k + 1) : nearest x = k + 1 := by
  have hnonneg : (0 : ℚ) ≤ k := k.cast_nonneg
  have hfloor : ⌊x⌋₊ = k := by
    rw [Nat.floor_eq_iff (by linarith)]
    exact ⟨by linarith, hx⟩
  rw [nearest, hfloor, if_neg (not_lt.mpr hk.le), if_neg hk.ne']

@[simp]
theorem nearest_natCast (k : ℕ) : nearest k = k :=
  nearest_of_lt le_rfl (by linarith)

theorem floor_le_nearest (x : ℚ) : ⌊x⌋₊ ≤ nearest x := by
  unfold nearest
  split_ifs <;> omega

theorem nearest_le_succ_floor (x : ℚ) : nearest x ≤ ⌊x⌋₊ + 1 := by
  unfold nearest
  split_ifs <;> omega

/-- Rounding to whole numbers keeps the order. -/
theorem nearest_le_nearest (hx : 0 ≤ x) (hxy : x ≤ y) : nearest x ≤ nearest y := by
  rcases (Nat.floor_mono hxy).lt_or_eq with hlt | heq
  · calc nearest x ≤ ⌊x⌋₊ + 1 := nearest_le_succ_floor x
      _ ≤ ⌊y⌋₊ := hlt
      _ ≤ nearest y := floor_le_nearest y
  · -- between the same two whole numbers
    have hfloor := Nat.floor_le hx
    have hceil := Nat.lt_floor_add_one y
    rw [← heq] at hceil
    rcases lt_trichotomy x (⌊x⌋₊ + 1 / 2) with h | h | h
    · rw [nearest_of_lt hfloor h, heq]
      exact floor_le_nearest y
    · rcases (h.symm.trans_le hxy).eq_or_lt with h' | h'
      · rw [nearest_of_half h, nearest_of_half h'.symm]
      · rw [nearest_of_half h, nearest_of_gt h' hceil]
        omega
    · rw [nearest_of_gt h (hxy.trans_lt hceil), nearest_of_gt (h.trans_le hxy) hceil]

/-- A number is taken up by a half at most. -/
theorem nearest_le_add_half (hx : 0 ≤ x) : nearest x ≤ x + 1 / 2 := by
  have hfloor := Nat.floor_le hx
  rcases lt_trichotomy x (⌊x⌋₊ + 1 / 2) with h | h | h
  · rw [nearest_of_lt hfloor h]
    linarith
  · have hle : (nearest x : ℚ) ≤ (⌊x⌋₊ + 1 : ℕ) := Nat.cast_le.mpr (nearest_le_succ_floor x)
    push_cast at hle
    linarith
  · rw [nearest_of_gt h (Nat.lt_floor_add_one x)]
    push_cast
    linarith

/-- What takes a number up to the nearest whole number does not take that one any further. -/
theorem nearest_reflect (hx : 0 ≤ x) (hup : x ≤ nearest x) :
    nearest (2 * nearest x - x) = nearest x := by
  have hfloor := Nat.floor_le hx
  have hceil := Nat.lt_floor_add_one x
  rcases lt_trichotomy x (⌊x⌋₊ + 1 / 2) with h | h | h
  · -- not taken up at all
    have hn := nearest_of_lt hfloor h
    rw [hn] at hup ⊢
    have hx : 2 * (⌊x⌋₊ : ℚ) - x = ⌊x⌋₊ := by linarith
    rw [hx]
    exact nearest_natCast _
  · -- taken up by half, to the even one
    have hn := nearest_of_half h
    have hodd : ⌊x⌋₊ % 2 = 1 := by
      by_contra hodd
      rw [hn, show ⌊x⌋₊ % 2 = 0 by omega, add_zero] at hup
      linarith
    rw [hodd] at hn
    have hx : 2 * ((⌊x⌋₊ + 1 : ℕ) : ℚ) - x = (⌊x⌋₊ + 1 : ℕ) + 1 / 2 := by
      push_cast
      linarith
    rw [hn, hx, nearest_of_half rfl]
    omega
  · -- taken up by less
    have hn := nearest_of_gt h hceil
    rw [hn] at hup ⊢
    push_cast at hup
    apply nearest_of_lt
    · push_cast
      linarith
    · push_cast
      linarith

/-! ## The unit -/

/-- The exponent of the last of the 24 binary places of a number. -/
def unit (x : ℚ) : ℤ :=
  max (Int.log 2 x - 23) (-149)

/-- A place is no less than the unit of a number if the number ends within 24 places above it.  This
is all that is ever asked of a unit. -/
theorem unit_le_iff (hx : 0 < x) {e : ℤ} : unit x ≤ e ↔ x < 2 ^ (e + 24) ∧ -149 ≤ e := by
  have hlog := Int.lt_zpow_iff_log_lt Nat.one_lt_two (x := e + 24) hx
  rw [Nat.cast_ofNat] at hlog
  rw [hlog, unit, max_le_iff]
  constructor <;> rintro ⟨h, hleast⟩ <;> exact ⟨by omega, hleast⟩

theorem neg_149_le_unit (x : ℚ) : -149 ≤ unit x := le_max_right _ _

/-- A larger number has no smaller unit. -/
theorem unit_mono (hx : 0 < x) (hxy : x ≤ y) : unit x ≤ unit y := by
  have hy := hx.trans_le hxy
  obtain ⟨hlt, hleast⟩ := (unit_le_iff hy).mp le_rfl
  exact (unit_le_iff hx).mpr ⟨hxy.trans_lt hlt, hleast⟩

/-- A number has no more than 24 binary places before the end of its unit. -/
theorem lt_two_pow_unit (hx : 0 < x) : x < 2 ^ (unit x + 24) :=
  ((unit_le_iff hx).mp le_rfl).1

/-- It has all of them, unless its unit is the least. -/
theorem two_pow_unit_le (hx : 0 < x) (hleast : -149 < unit x) : 2 ^ (unit x + 23) ≤ x := by
  by_contra hlt
  have hunit : unit x ≤ unit x - 1 := by
    rw [unit_le_iff hx, show unit x - 1 + 24 = unit x + 23 by ring]
    exact ⟨not_le.mp hlt, by omega⟩
  omega

/-- The unit, from the powers of two around the number. -/
theorem unit_eq {e : ℤ} (hlow : 2 ^ (e + 23) ≤ x) (hhigh : x < 2 ^ (e + 24)) (hleast : -149 ≤ e) :
    unit x = e := by
  have hx : 0 < x := lt_of_lt_of_le (by positivity) hlow
  refine le_antisymm ((unit_le_iff hx).mpr ⟨hhigh, hleast⟩) ?_
  by_contra hlt
  have hup := ((unit_le_iff hx).mp (by omega : unit x ≤ e - 1)).1
  rw [show e - 1 + 24 = e + 23 by ring] at hup
  exact absurd hlow (not_le.mpr hup)

/-- A power of two times a natural one: the exponents add up. -/
theorem natCast_two_pow_mul (n : ℕ) (e : ℤ) : ((2 ^ n : ℕ) : ℚ) * 2 ^ e = 2 ^ (e + n) := by
  rw [zpow_add₀ two_ne_zero, zpow_natCast, mul_comm]
  push_cast
  rfl

theorem div_unit_lt (hx : 0 < x) : x / 2 ^ unit x < (2 ^ 24 : ℕ) := by
  rw [div_lt_iff₀ (by positivity), natCast_two_pow_mul]
  exact lt_two_pow_unit hx

theorem le_div_unit (hx : 0 < x) (hleast : -149 < unit x) : ((2 ^ 23 : ℕ) : ℚ) ≤ x / 2 ^ unit x := by
  rw [le_div_iff₀ (by positivity), natCast_two_pow_mul]
  exact two_pow_unit_le hx hleast

/-! ## Rounding -/

/-- The number of units nearest to a number. -/
def units (x : ℚ) : ℕ :=
  nearest (x / 2 ^ unit x)

/-- The multiple of its unit nearest to a number. -/
def rounded (x : ℚ) : ℚ :=
  units x * 2 ^ unit x

/-- There are `2 ^ 24` units at most, and that many only if rounding carries. -/
theorem units_le (hx : 0 < x) : units x ≤ 2 ^ 24 := by
  have hmono := nearest_le_nearest (by positivity) (div_unit_lt hx).le
  rw [nearest_natCast] at hmono
  exact hmono

theorem le_units (hx : 0 < x) (hleast : -149 < unit x) : 2 ^ 23 ≤ units x := by
  have hmono := nearest_le_nearest (Nat.cast_nonneg _) (le_div_unit hx hleast)
  rw [nearest_natCast] at hmono
  exact hmono

theorem rounded_nonneg (x : ℚ) : 0 ≤ rounded x := by
  unfold rounded
  positivity

@[simp]
theorem rounded_zero : rounded 0 = 0 := by
  have hunits : units 0 = 0 := by
    rw [units, zero_div]
    exact nearest_natCast 0
  rw [rounded, hunits, Nat.cast_zero, zero_mul]

/-- A number is taken up by half a unit at most. -/
theorem rounded_le_add_half (hx : 0 < x) : rounded x ≤ x + 2 ^ unit x / 2 := by
  have hpow : (0 : ℚ) < 2 ^ unit x := by positivity
  calc rounded x ≤ (x / 2 ^ unit x + 1 / 2) * 2 ^ unit x := by
        unfold rounded
        gcongr
        exact nearest_le_add_half (div_pos hx hpow).le
    _ = x + 2 ^ unit x / 2 := by
        rw [add_mul, div_mul_cancel₀ x hpow.ne']
        ring

/-- Rounding keeps the order. -/
theorem rounded_le_rounded (hx : 0 ≤ x) (hxy : x ≤ y) : rounded x ≤ rounded y := by
  rcases hx.eq_or_lt with rfl | hx
  · rw [rounded_zero]
    exact rounded_nonneg y
  have hy := hx.trans_le hxy
  rcases (unit_mono hx hxy).eq_or_lt with hunit | hunit
  · -- the same unit
    have hunits : units x ≤ units y := by
      unfold units
      rw [hunit]
      exact nearest_le_nearest (by positivity) (div_le_div_of_nonneg_right hxy (by positivity))
    unfold rounded
    rw [hunit]
    gcongr
  · -- all 24 places of the smaller number are below the first place of the larger one
    have hleast : -149 < unit y := (neg_149_le_unit x).trans_lt hunit
    calc rounded x ≤ (2 ^ 24 : ℕ) * 2 ^ unit x := by
          unfold rounded
          gcongr
          exact units_le hx
      _ = 2 ^ (unit x + 1 + 23) := by
          rw [natCast_two_pow_mul, add_assoc]
          rfl
      _ ≤ 2 ^ (unit y + 23) := by
          gcongr
          · exact one_le_two
          · omega
      _ = (2 ^ 23 : ℕ) * 2 ^ unit y := (natCast_two_pow_mul 23 (unit y)).symm
      _ ≤ rounded y := by
          unfold rounded
          gcongr
          exact le_units hy hleast

/-- A whole number of units is not rounded. -/
theorem rounded_of_units {n : ℕ} (hx : x = n * 2 ^ unit x) : rounded x = x := by
  have hunits : units x = n := by
    have hpow : (2 : ℚ) ^ unit x ≠ 0 := by positivity
    rw [units, (div_eq_iff hpow).mpr hx]
    exact nearest_natCast n
  rw [rounded, hunits]
  exact hx.symm

/-- A number of no more than 24 binary places is not rounded. -/
theorem rounded_of_places {m : ℕ} {e : ℤ} (hm : m < 2 ^ 24) (he : -149 ≤ e) :
    rounded (m * 2 ^ e) = m * 2 ^ e := by
  rcases m.eq_zero_or_pos with rfl | hpos
  · rw [Nat.cast_zero, zero_mul]
    exact rounded_zero
  have hunit : unit (m * 2 ^ e) ≤ e := by
    have hx : (0 : ℚ) < m * 2 ^ e := by positivity
    refine (unit_le_iff hx).mpr ⟨?_, he⟩
    calc (m : ℚ) * 2 ^ e < (2 ^ 24 : ℕ) * 2 ^ e := by gcongr
      _ = 2 ^ (e + 24) := natCast_two_pow_mul 24 e
  -- the unit is no larger than the last place
  obtain ⟨n, hn⟩ := Int.eq_ofNat_of_zero_le (sub_nonneg.mpr hunit)
  refine rounded_of_units (n := m * 2 ^ n) ?_
  rw [Nat.cast_mul, mul_assoc, natCast_two_pow_mul, ← hn]
  congr 2
  ring

/-- A power of two has one place, and is not rounded. -/
theorem rounded_two_pow {e : ℤ} (he : -149 ≤ e) : rounded (2 ^ e) = 2 ^ e := by
  have hone := rounded_of_places (m := 1) (by norm_num) he
  rwa [Nat.cast_one, one_mul] at hone

theorem rounded_le_two_pow {e : ℤ} (he : -149 ≤ e) (hx : 0 ≤ x) (hle : x ≤ 2 ^ e) :
    rounded x ≤ 2 ^ e :=
  (rounded_le_rounded hx hle).trans_eq (rounded_two_pow he)

theorem two_pow_le_rounded {e : ℤ} (he : -149 ≤ e) (hle : 2 ^ e ≤ x) : 2 ^ e ≤ rounded x :=
  (rounded_two_pow he).symm.trans_le (rounded_le_rounded (by positivity) hle)

/-- A number is rounded down to a power of two if it is less than half a unit above it. -/
theorem rounded_of_near_two_pow {e : ℤ} (he : -149 ≤ e) (hlow : 2 ^ (e + 23) ≤ x)
    (hhigh : x < 2 ^ (e + 23) + 2 ^ e / 2) : rounded x = 2 ^ (e + 23) := by
  have hpow : (0 : ℚ) < 2 ^ e := by positivity
  have hplaces : ((2 ^ 23 : ℕ) : ℚ) * 2 ^ e = 2 ^ (e + 23) := natCast_two_pow_mul 23 e
  -- the number has the unit of the power of two that it is just above
  have hunit : unit x = e := by
    refine unit_eq hlow ?_ he
    calc x < 2 ^ (e + 23) + 2 ^ e / 2 := hhigh
      _ ≤ 2 * 2 ^ (e + 23) := by
        rw [← hplaces]
        push_cast
        linarith
      _ = 2 ^ (e + 24) := by
        rw [← zpow_one_add₀ two_ne_zero]
        congr 1
        ring
  have hunits : units x = 2 ^ 23 := by
    rw [units, hunit]
    apply nearest_of_lt
    · rwa [le_div_iff₀ hpow, hplaces]
    · rw [div_lt_iff₀ hpow, add_mul, hplaces]
      linarith
  rw [rounded, hunits, hunit, hplaces]

/-- What rounding has added to a number can be added once more without effect. -/
theorem rounded_reflect (hx : 0 < x) (hup : x ≤ rounded x) :
    rounded (2 * rounded x - x) = rounded x := by
  have hpow : (0 : ℚ) < 2 ^ unit x := by positivity
  have hunits : x / 2 ^ unit x ≤ units x := (div_le_iff₀ hpow).mpr hup
  have hnearest := nearest_reflect (div_pos hx hpow).le hunits
  generalize hz : 2 * rounded x - x = z
  have hxz : x ≤ z := by linarith
  have hz0 : 0 < z := hx.trans_le hxz
  -- in units, the other number lies as far beyond the rounded one as the first lies before it
  have hreflected : z / 2 ^ unit x = 2 * units x - x / 2 ^ unit x := by
    rw [← hz, rounded, sub_div, ← mul_assoc, mul_div_cancel_right₀ _ hpow.ne']
  by_cases hlt : z < 2 ^ (unit x + 24)
  · -- the unit stays the same
    have hunit : unit z = unit x := by
      refine le_antisymm ?_ (unit_mono hx hxz)
      exact (unit_le_iff hz0).mpr ⟨hlt, neg_149_le_unit x⟩
    rw [rounded, units, hunit, hreflected]
    exact congrArg (fun n : ℕ => (n : ℚ) * 2 ^ unit x) hnearest
  · -- the number was rounded up to a power of two, and the unit is twice as large above it
    have hhigh : 2 ^ (unit x + 24) ≤ z := not_lt.mp hlt
    have hplaces : ((2 ^ 24 : ℕ) : ℚ) * 2 ^ unit x = 2 ^ (unit x + 24) :=
      natCast_two_pow_mul 24 (unit x)
    have hhalf : (units x : ℚ) ≤ x / 2 ^ unit x + 1 / 2 :=
      nearest_le_add_half (div_pos hx hpow).le
    have hpower : units x = 2 ^ 24 := by
      have hz24 : ((2 ^ 24 : ℕ) : ℚ) ≤ z / 2 ^ unit x := by rwa [le_div_iff₀ hpow, hplaces]
      have hlow : ((2 ^ 24 : ℕ) : ℚ) < (units x + 1 : ℕ) := by
        push_cast at hz24 ⊢
        linarith
      exact le_antisymm (units_le hx) (Nat.lt_succ_iff.mp (Nat.cast_lt.mp hlow))
    have hrounded : rounded x = 2 ^ (unit x + 24) := by rw [rounded, hpower, hplaces]
    have hexp : unit x + 1 + 23 = unit x + 24 := by ring
    have hnear : z < 2 ^ (unit x + 1 + 23) + 2 ^ (unit x + 1) / 2 := by
      rw [hexp, zpow_add_one₀ two_ne_zero, mul_div_cancel_right₀ _ two_ne_zero]
      linarith [rounded_le_add_half hx]
    rw [rounded_of_near_two_pow (by linarith [neg_149_le_unit x]) (hexp ▸ hhigh) hnear, hexp,
      hrounded]

/-! ## Whole numbers, rounded -/

/-- A whole number is rounded to a whole number. -/
theorem exists_rounded_natCast (n : ℕ) : ∃ k : ℕ, rounded n = k := by
  rcases lt_or_ge (unit n) 0 with hneg | hnonneg
  · -- the unit is a fraction, and the number is not rounded
    refine ⟨n, ?_⟩
    obtain ⟨j, hj⟩ := Int.eq_ofNat_of_zero_le (neg_nonneg.mpr hneg.le)
    refine rounded_of_units (n := n * 2 ^ j) ?_
    rw [Nat.cast_mul, mul_assoc, natCast_two_pow_mul, ← hj, add_neg_cancel, zpow_zero, mul_one]
  · obtain ⟨j, hj⟩ := Int.eq_ofNat_of_zero_le hnonneg
    refine ⟨units n * 2 ^ j, ?_⟩
    rw [rounded, hj]
    push_cast
    rfl

/-- Counting on from a rounded number leads no further than rounding the next number. -/
theorem rounded_add_one_le (n : ℕ) : rounded (rounded n + 1) ≤ rounded (n + 1 : ℕ) := by
  rcases le_or_gt (rounded n) n with hdown | hup
  · refine rounded_le_rounded (by linarith [rounded_nonneg n]) ?_
    push_cast
    linarith
  · -- rounding has added one at least
    obtain ⟨k, hk⟩ := exists_rounded_natCast n
    have hpos : (0 : ℚ) < n := by
      rcases n.eq_zero_or_pos with rfl | hpos
      · rw [Nat.cast_zero, rounded_zero] at hup
        exact absurd hup (lt_irrefl _)
      · exact Nat.cast_pos.mpr hpos
    have hstep : (n : ℚ) + 1 ≤ rounded n := by
      rw [hk] at hup ⊢
      exact_mod_cast hup
    calc rounded (rounded n + 1) ≤ rounded (2 * rounded n - n) :=
          rounded_le_rounded (by linarith) (by linarith)
      _ = rounded n := rounded_reflect hpos hup.le
      _ ≤ rounded (n + 1 : ℕ) := by
          refine rounded_le_rounded hpos.le ?_
          push_cast
          linarith

end RemoteUi.Single
