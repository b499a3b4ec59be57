/-
# RemoteUi.Proofs.Screen.Brightening — a fade grows with time.

An opacity that is no less than a half and no more than one is `Lit`.  A fade that starts with such
an opacity never falls below it or below what it was at an earlier time, and never exceeds full
opacity (`Lit.le_opacityAt`, `Lit.opacityAt_le_opacityAt`, `Lit.opacityAt`).

This would be immediate among rational numbers.  But every step of the computation is rounded to
single precision: the times, the quotient of the time that has passed and the duration, the product
with what is missing to full opacity, and the sum.  So each step is given here as a rational number
with the roundings in place: `inSeconds`, `part`, `blend`.  That the whole of it keeps the order
rests on rounding keeping it, with two steps that need more:

* The whole seconds of a time and its rest are rounded apart.  A later time does not come out before
  an earlier one (`inSeconds_le_inSeconds`), since a rest comes to one second at most, and a whole
  number rounded, plus one, is rounded to no more than the next whole number is.
* What is added to the opacity at the start is rounded before it is added.  The sum is not above
  one, as that amount is no more than what is missing to one (`rounded_missing_le`), and this is a
  number of single precision.

Times are to have whole seconds of 64 bits (`InRange`), as those of the program have.
-/
import RemoteUi.Proofs.Single.Arithmetic
import RemoteUi.Screen.Surface
import RemoteUi.Screen.Fade

namespace RemoteUi

open Single

/-! ## Times -/

/-- A time that can be told: its seconds have 64 bits. -/
def InRange (nanos : Nat) : Prop :=
  nanos < Nat.pow 2 64 * nanosPerSecond

/-- The part of a second that a time is past its last whole second, as it is computed. -/
def fraction (nanos : Nat) : ℚ :=
  rounded (rounded (nanos % nanosPerSecond : ℕ) / nanosPerSecond)

/-- The seconds of a time, as they are computed. -/
def inSeconds (nanos : Nat) : ℚ :=
  rounded (rounded (nanos / nanosPerSecond : ℕ) + fraction nanos)

variable {m n : Nat}

theorem InRange.lt (h : InRange n) : n / nanosPerSecond < 2 ^ 64 :=
  Nat.div_lt_of_lt_mul ((Nat.mul_comm _ _).symm ▸ h)

theorem rounded_nanosPerSecond : rounded nanosPerSecond = nanosPerSecond := by
  have hplaces : (nanosPerSecond : ℚ) = (1953125 : ℕ) * 2 ^ (9 : ℤ) := by
    norm_num [nanosPerSecond]
  rw [hplaces]
  exact rounded_of_places (by norm_num) (by norm_num)

/-- The rest of a time is less than a second, and is rounded to a second at most. -/
theorem rest_div_le_one (n : Nat) : rounded (n % nanosPerSecond : ℕ) / nanosPerSecond ≤ 1 := by
  have hlt : n % nanosPerSecond < nanosPerSecond := Nat.mod_lt n (by decide)
  have hrounded : rounded (n % nanosPerSecond : ℕ) ≤ nanosPerSecond := by
    rw [← rounded_nanosPerSecond]
    exact rounded_le_rounded (Nat.cast_nonneg _) (Nat.cast_le.mpr hlt.le)
  exact div_le_one_of_le₀ hrounded (Nat.cast_nonneg _)

theorem rest_div_nonneg (n : Nat) : 0 ≤ rounded (n % nanosPerSecond : ℕ) / nanosPerSecond :=
  div_nonneg (rounded_nonneg _) (Nat.cast_nonneg _)

theorem fraction_nonneg (n : Nat) : 0 ≤ fraction n := rounded_nonneg _

/-- Rounding does not take it above one. -/
theorem fraction_le_one (n : Nat) : fraction n ≤ 1 := by
  have hle := rounded_le_two_pow (e := 0) (by norm_num) (rest_div_nonneg n)
  rw [zpow_zero] at hle
  exact hle (rest_div_le_one n)

theorem rounded_seconds_le (h : InRange n) : rounded (n / nanosPerSecond : ℕ) ≤ 2 ^ (64 : ℤ) := by
  refine rounded_le_two_pow (by norm_num) (Nat.cast_nonneg _) ?_
  exact_mod_cast h.lt.le

theorem inSeconds_nonneg (n : Nat) : 0 ≤ inSeconds n := rounded_nonneg _

/-- The seconds of a time are far from what overflows. -/
theorem inSeconds_le (h : InRange n) : inSeconds n ≤ 2 ^ (65 : ℤ) := by
  refine rounded_le_two_pow (by norm_num) (add_nonneg (rounded_nonneg _) (fraction_nonneg n)) ?_
  have hseconds := rounded_seconds_le h
  have hfraction := fraction_le_one n
  norm_num at hseconds ⊢
  linarith

/-- A later time has no fewer seconds. -/
theorem inSeconds_le_inSeconds (hn : InRange n) (hmn : m ≤ n) : inSeconds m ≤ inSeconds n := by
  have hnonneg : ∀ k : Nat, 0 ≤ rounded (k / nanosPerSecond : ℕ) + fraction k := fun k =>
    add_nonneg (rounded_nonneg _) (fraction_nonneg k)
  rcases (Nat.div_le_div_right hmn : m / nanosPerSecond ≤ n / nanosPerSecond).lt_or_eq with
    hlt | heq
  · -- a whole second later; the earlier time comes to one second more at most
    calc inSeconds m ≤ rounded (rounded (m / nanosPerSecond : ℕ) + 1) := by
          refine rounded_le_rounded (hnonneg m) ?_
          linarith [fraction_le_one m]
      _ ≤ rounded (m / nanosPerSecond + 1 : ℕ) := rounded_add_one_le _
      _ ≤ rounded (n / nanosPerSecond : ℕ) :=
          rounded_le_rounded (Nat.cast_nonneg _) (Nat.cast_le.mpr hlt)
      _ = rounded (rounded (n / nanosPerSecond : ℕ)) := (denotes_toFloat32 hn.lt).rounded_eq.symm
      _ ≤ inSeconds n := by
          refine rounded_le_rounded (rounded_nonneg _) ?_
          linarith [fraction_nonneg n]
  · -- the same second
    have hrest : m % nanosPerSecond ≤ n % nanosPerSecond := by
      have hm := Nat.div_add_mod m nanosPerSecond
      have hn := Nat.div_add_mod n nanosPerSecond
      rw [heq] at hm
      omega
    have hfraction : fraction m ≤ fraction n := by
      refine rounded_le_rounded (rest_div_nonneg m) ?_
      have hrounded := rounded_le_rounded (Nat.cast_nonneg _) (Nat.cast_le.mpr hrest)
      exact div_le_div_of_nonneg_right hrounded (Nat.cast_nonneg _)
    unfold inSeconds
    refine rounded_le_rounded (hnonneg m) ?_
    rw [heq]
    linarith

/-- No time that passes is computed as none. -/
theorem two_pow_le_inSeconds (hpos : 0 < n) : 2 ^ (-30 : ℤ) ≤ inSeconds n := by
  refine two_pow_le_rounded (by norm_num) ?_
  rcases (n / nanosPerSecond).eq_zero_or_pos with hzero | hseconds
  · -- less than a second, a nanosecond at least
    have hrest : 1 ≤ n % nanosPerSecond := by
      have hn := Nat.div_add_mod n nanosPerSecond
      rw [hzero] at hn
      omega
    have hone : 2 ^ (0 : ℤ) ≤ rounded (n % nanosPerSecond : ℕ) := by
      refine two_pow_le_rounded (by norm_num) ?_
      exact_mod_cast hrest
    have hfraction : 2 ^ (-30 : ℤ) ≤ fraction n := by
      refine two_pow_le_rounded (by norm_num) ?_
      rw [le_div_iff₀ (by norm_num [nanosPerSecond])]
      refine le_trans ?_ hone
      norm_num [nanosPerSecond]
    exact le_add_of_nonneg_of_le (rounded_nonneg _) hfraction
  · have hone : 2 ^ (0 : ℤ) ≤ rounded (n / nanosPerSecond : ℕ) := by
      refine two_pow_le_rounded (by norm_num) ?_
      exact_mod_cast hseconds
    have hlow : (2 : ℚ) ^ (-30 : ℤ) ≤ 2 ^ (0 : ℤ) := by norm_num
    exact le_add_of_le_of_nonneg (hlow.trans hone) (fraction_nonneg n)

/-- What the program computes is this number. -/
theorem denotes_seconds (h : InRange n) : Denotes (seconds n) (inSeconds n) := by
  have hsecond : Denotes nanosPerSecond.toUInt64.toFloat32 nanosPerSecond := by
    have hdenotes := denotes_toFloat32 (n := nanosPerSecond) (by decide)
    rwa [rounded_nanosPerSecond] at hdenotes
  have hrest : n % nanosPerSecond < 2 ^ 64 :=
    (Nat.mod_lt n (by decide)).trans (by decide)
  have hmax : (1 : ℚ) ≤ 2 ^ 100 := by norm_num
  have hfraction := (denotes_toFloat32 hrest).div hsecond (by norm_num [nanosPerSecond])
    ((rest_div_le_one n).trans hmax)
  refine (denotes_toFloat32 h.lt).add hfraction ?_
  have hseconds := rounded_seconds_le h
  have hone := fraction_le_one n
  norm_num at hseconds ⊢
  linarith

/-! ## Progress -/

/-- A number is cut off at one. -/
theorem denotes_clampUnit {x : Float32} {p : ℚ} (h : Denotes x p) :
    Denotes (clampUnit x) (min p 1) := by
  unfold clampUnit
  have hpos : ¬ x < 0 := by
    rw [h.lt_iff denotes_zero]
    exact not_lt.mpr h.nonneg
  rw [if_neg hpos]
  split
  · rename_i hgt
    rw [denotes_one.lt_iff h] at hgt
    rw [min_eq_right hgt.le]
    exact denotes_one
  · rename_i hle
    rw [denotes_one.lt_iff h, not_lt] at hle
    rwa [min_eq_left hle]

/-- The part of a duration that has passed, as it is computed. -/
def part (elapsed duration : Nat) : ℚ :=
  min (rounded (inSeconds elapsed / inSeconds duration)) 1

variable {elapsed elapsed' duration : Nat}

theorem part_nonneg (elapsed duration : Nat) : 0 ≤ part elapsed duration :=
  le_min (rounded_nonneg _) zero_le_one

theorem part_le_one (elapsed duration : Nat) : part elapsed duration ≤ 1 := min_le_right _ _

/-- More time is no smaller part of a duration. -/
theorem part_le_part (helapsed : InRange elapsed') (hle : elapsed ≤ elapsed') :
    part elapsed duration ≤ part elapsed' duration := by
  refine min_le_min_right 1 (rounded_le_rounded ?_ ?_)
  · exact div_nonneg (inSeconds_nonneg _) (inSeconds_nonneg _)
  · exact div_le_div_of_nonneg_right (inSeconds_le_inSeconds helapsed hle) (inSeconds_nonneg _)

/-- The quotient is taken of numbers that are in range, and by one that is not zero. -/
theorem denotes_progress (hpos : 0 < duration) (hduration : InRange duration)
    (helapsed : InRange elapsed) : Denotes (progress elapsed duration) (part elapsed duration) := by
  have hlow := two_pow_le_inSeconds hpos
  refine denotes_clampUnit ((denotes_seconds helapsed).div (denotes_seconds hduration) ?_ ?_)
  · exact lt_of_lt_of_le (by positivity) hlow
  · -- the quotient is no overflow, as the duration is not too short
    calc inSeconds elapsed / inSeconds duration ≤ 2 ^ (65 : ℤ) / 2 ^ (-30 : ℤ) :=
          div_le_div₀ (by positivity) (inSeconds_le helapsed) (by positivity) hlow
      _ ≤ 2 ^ 100 := by norm_num

/-! ## Opacities -/

/-- The opacity on the way from another to full opacity, as it is computed. -/
def blend (start part : ℚ) : ℚ :=
  rounded (start + rounded ((1 - start) * part))

/-- No less than half opacity, and no more than full. -/
def Lit (x : Float32) : Prop :=
  ∃ p, Denotes x p ∧ 1 / 2 ≤ p ∧ p ≤ 1

variable {x y z : Float32} {p q : ℚ}

theorem lit_one : Lit 1 := ⟨1, denotes_one, by norm_num, le_rfl⟩

theorem lit_pendingOpacity : Lit pendingOpacity := ⟨1 / 2, denotes_half, le_rfl, by norm_num⟩

/-- A lit opacity is a number, and is no less than itself. -/
theorem Lit.le_refl (hx : Lit x) : x ≤ x := by
  obtain ⟨p, hp, -⟩ := hx
  exact (hp.le_iff hp).mpr le_rfl

theorem Lit.le_trans (hx : Lit x) (hy : Lit y) (hz : Lit z) (hxy : x ≤ y) (hyz : y ≤ z) :
    x ≤ z := by
  obtain ⟨p, hp, -⟩ := hx
  obtain ⟨q, hq, -⟩ := hy
  obtain ⟨r, hr, -⟩ := hz
  rw [hp.le_iff hq] at hxy
  rw [hq.le_iff hr] at hyz
  exact (hp.le_iff hr).mpr (hxy.trans hyz)

theorem Lit.pendingOpacity_le (hx : Lit x) : pendingOpacity ≤ x := by
  obtain ⟨p, hp, hhalf, -⟩ := hx
  exact (denotes_half.le_iff hp).mpr hhalf

/-- More of the way is no less opacity. -/
theorem blend_le_blend (hp : 0 ≤ p) (hone : p ≤ 1) {part part' : ℚ} (hpart : 0 ≤ part)
    (hle : part ≤ part') : blend p part ≤ blend p part' := by
  have hmissing : 0 ≤ 1 - p := sub_nonneg.mpr hone
  have hproduct : (1 - p) * part ≤ (1 - p) * part' := mul_le_mul_of_nonneg_left hle hmissing
  have hrounded := rounded_le_rounded (mul_nonneg hmissing hpart) hproduct
  exact rounded_le_rounded (add_nonneg hp (rounded_nonneg _)) (by linarith)

/-- The way begins at the opacity that it starts with. -/
theorem le_blend (hx : Denotes x p) (part : ℚ) : p ≤ blend p part := by
  calc p = rounded p := hx.rounded_eq.symm
    _ ≤ blend p part := by
      refine rounded_le_rounded hx.nonneg ?_
      linarith [rounded_nonneg ((1 - p) * part)]

theorem rounded_missing_le (hx : Denotes x p) (hhalf : 1 / 2 ≤ p) (hone : p ≤ 1) {part : ℚ}
    (hpart : 0 ≤ part) (hle : part ≤ 1) : rounded ((1 - p) * part) ≤ 1 - p := by
  have hmissing : 0 ≤ 1 - p := sub_nonneg.mpr hone
  calc rounded ((1 - p) * part) ≤ rounded (1 - p) :=
        rounded_le_rounded (mul_nonneg hmissing hpart) (mul_le_of_le_one_right hmissing hle)
    _ = 1 - p := hx.rounded_one_sub hhalf hone

/-- The way ends at full opacity. -/
theorem blend_le_one (hx : Denotes x p) (hhalf : 1 / 2 ≤ p) (hone : p ≤ 1) {part : ℚ}
    (hpart : 0 ≤ part) (hle : part ≤ 1) : blend p part ≤ 1 := by
  have hmissing := rounded_missing_le hx hhalf hone hpart hle
  calc blend p part ≤ rounded 1 := by
        refine rounded_le_rounded (add_nonneg hx.nonneg (rounded_nonneg _)) ?_
        linarith
    _ = 1 := denotes_one.rounded_eq

/-- What the program computes is this opacity. -/
theorem denotes_opacityAt (hx : Denotes x p) (hhalf : 1 / 2 ≤ p) (hone : p ≤ 1) {part : ℚ}
    (hy : Denotes y part) (hle : part ≤ 1) : Denotes (opacityAt x y) (blend p part) := by
  have hmax : (1 : ℚ) ≤ 2 ^ 100 := by norm_num
  have hmissing : Denotes (1 - x) (1 - p) := by
    have hsub := denotes_one.sub hx hone hmax
    rwa [hx.rounded_one_sub hhalf hone] at hsub
  have hproduct : (1 - p) * part ≤ 1 := mul_le_one₀ (by linarith) hy.nonneg hle
  refine hx.add (hmissing.mul hy (hproduct.trans hmax)) ?_
  linarith [rounded_missing_le hx hhalf hone hy.nonneg hle]

/-! ## Fades -/

section

variable (hpos : 0 < duration) (hduration : InRange duration)

include hpos hduration

/-- A fade from a lit opacity is lit. -/
theorem Lit.opacityAt (hx : Lit x) (helapsed : InRange elapsed) :
    Lit (opacityAt x (progress elapsed duration)) := by
  obtain ⟨p, hp, hhalf, hone⟩ := hx
  have hprogress := denotes_progress hpos hduration helapsed
  refine ⟨_, denotes_opacityAt hp hhalf hone hprogress (part_le_one _ _), ?_, ?_⟩
  · exact hhalf.trans (le_blend hp _)
  · exact blend_le_one hp hhalf hone (part_nonneg _ _) (part_le_one _ _)

/-- A fade does not fall below the opacity that it starts with. -/
theorem Lit.le_opacityAt (hx : Lit x) (helapsed : InRange elapsed) :
    x ≤ RemoteUi.opacityAt x (progress elapsed duration) := by
  obtain ⟨p, hp, hhalf, hone⟩ := hx
  have hprogress := denotes_progress hpos hduration helapsed
  exact (hp.le_iff (denotes_opacityAt hp hhalf hone hprogress (part_le_one _ _))).mpr
    (le_blend hp _)

/-- A fade does not fall below what it was at an earlier time. -/
theorem Lit.opacityAt_le_opacityAt (hx : Lit x) (helapsed : InRange elapsed')
    (hle : elapsed ≤ elapsed') :
    RemoteUi.opacityAt x (progress elapsed duration) ≤
      RemoteUi.opacityAt x (progress elapsed' duration) := by
  obtain ⟨p, hp, hhalf, hone⟩ := hx
  have hearlier := denotes_progress hpos hduration (lt_of_le_of_lt hle helapsed)
  have hlater := denotes_progress hpos hduration helapsed
  rw [(denotes_opacityAt hp hhalf hone hearlier (part_le_one _ _)).le_iff
    (denotes_opacityAt hp hhalf hone hlater (part_le_one _ _))]
  exact blend_le_blend hp.nonneg hone (part_nonneg _ _) (part_le_part helapsed hle)

end

end RemoteUi
