import Mathlib.Algebra.Order.Field.Basic
import Mathlib.Algebra.Order.Field.Rat
import Mathlib.Data.Int.Cast.Lemmas
import Mathlib.Data.Rat.Cast.Order
import Mathlib.Tactic.Ring
import Heartbeat.Proofs.NearestNumber

/-!
# A rounded quotient is the nearest number

Rounding a quotient gives a number of the format that no other one is nearer to the quotient, and
the even one of two that are equally near (`isNearest_ofRatio`). Among the whole numbers of last
places this is what `roundHalfEven` is for. A magnitude that is not a whole number of last places
lies below the power of two below the quotient, and is further away than that.
-/

namespace Heartbeat

/-- How far a number, so many times taken, is from another one. -/
def distance (num den number : Nat) : Nat := ((num : Int) - number * den).natAbs

/-- A quotient is rounded by half at most, and by half only to an even number. -/
theorem two_mul_distance_roundHalfEven {den : Nat} (hden : 0 < den) (num : Nat) :
    2 * distance num den (roundHalfEven num den) < den ∨
      2 * distance num den (roundHalfEven num den) = den ∧ roundHalfEven num den % 2 = 0 := by
  have hdiv := Nat.div_add_mod num den
  have hmod := Nat.mod_lt num hden
  have hsucc : (num / den + 1) * den = den * (num / den) + den := by
    rw [Nat.add_mul, Nat.one_mul, Nat.mul_comm]
  have hquotient : num / den * den = den * (num / den) := Nat.mul_comm _ _
  unfold distance
  rw [← Int.natCast_mul, roundHalfEven]
  split
  · rw [hquotient]
    omega
  · rw [hsucc]
    omega

theorem distance_lt_of_lt {num den lower upper : Nat} (hden : 0 < den) (hlt : lower < upper)
    (hle : upper ≤ num / den) : distance num den upper < distance num den lower := by
  have hlower : lower * den < upper * den := Nat.mul_lt_mul_of_pos_right hlt hden
  have hupper : upper * den ≤ num := (Nat.le_div_iff_mul_le hden).mp hle
  unfold distance
  rw [← Int.natCast_mul, ← Int.natCast_mul]
  omega

/-- No whole number is nearer to the quotient than the rounded one. -/
theorem distance_roundHalfEven_le {den : Nat} (hden : 0 < den) (num other : Nat) :
    distance num den (roundHalfEven num den) < distance num den other ∨
      other = roundHalfEven num den ∨
      distance num den (roundHalfEven num den) = distance num den other ∧
        roundHalfEven num den % 2 = 0 := by
  have hhalf := two_mul_distance_roundHalfEven hden num
  by_cases hother : other = roundHalfEven num den
  · exact .inr (.inl hother)
  have hapart : den ≤
      distance num den (roundHalfEven num den) + distance num den other := by
    generalize roundHalfEven num den = rounded at hother
    have hstep : other * den + den ≤ rounded * den ∨ rounded * den + den ≤ other * den := by
      rcases Nat.lt_or_gt_of_ne hother with hlt | hgt
      · exact .inl (by rw [← Nat.succ_mul]; exact Nat.mul_le_mul_right den hlt)
      · exact .inr (by rw [← Nat.succ_mul]; exact Nat.mul_le_mul_right den hgt)
    unfold distance
    rw [← Int.natCast_mul, ← Int.natCast_mul]
    omega
  omega

namespace Binary64

/-- The significant bits of a magnitude, as a number. -/
def significand (units : Nat) : Nat := units / 2 ^ (units.log2 - 52)

theorem significand_lt (units : Nat) : significand units < 2 ^ 53 := by
  rw [significand, Nat.div_lt_iff_lt_mul (Nat.two_pow_pos _), ← Nat.pow_add]
  exact Nat.lt_of_lt_of_le Nat.lt_log2_self (Nat.pow_le_pow_right (by decide) (by omega))

theorem significand_mul {units : Nat} (hfits : Fits units) :
    significand units * 2 ^ (units.log2 - 52) = units :=
  Nat.div_mul_cancel (Nat.dvd_of_mod_eq_zero hfits.2)

theorem significand_even {rounded place : Nat} (hrounded : rounded ≤ 2 ^ 53)
    (hfull : place = 0 ∨ 2 ^ 52 ≤ rounded) (heven : rounded % 2 = 0) :
    significand (rounded * 2 ^ place) % 2 = 0 := by
  rcases Nat.lt_or_eq_of_le hrounded with hlt | rfl
  · have hlog : (rounded * 2 ^ place).log2 - 52 = place := by
      by_cases hzero : rounded = 0
      · have hplace : place = 0 := by omega
        simp [hzero, hplace]
      · have hupper := log2_mul_two_pow_le (s := place) hlt
        rcases hfull with hplace | hfull
        · omega
        · have hpos : rounded * 2 ^ place ≠ 0 :=
            Nat.mul_ne_zero hzero (Nat.ne_of_gt (Nat.two_pow_pos place))
          have hlower : 52 + place ≤ (rounded * 2 ^ place).log2 := by
            rw [Nat.le_log2 hpos, Nat.pow_add]
            exact Nat.mul_le_mul_right _ hfull
          omega
    rw [significand, hlog, Nat.mul_div_cancel _ (Nat.two_pow_pos place)]
    exact heven
  · rw [significand, ← Nat.pow_add, Nat.log2_two_pow, Nat.pow_div (by omega) (by omega),
      show 53 + place - (53 + place - 52) = 52 by omega]

/-- A large magnitude is a whole number of the places that 53 bits leave to it. -/
theorem two_pow_dvd_of_le {units exponent : Nat} (hfits : Fits units) (h : 2 ^ exponent ≤ units) :
    2 ^ (exponent - 52) ∣ units := by
  have hpos : units ≠ 0 := Nat.ne_of_gt (Nat.lt_of_lt_of_le (Nat.two_pow_pos exponent) h)
  have hlog : exponent ≤ units.log2 := (Nat.le_log2 hpos).mpr h
  have hdvd : 2 ^ (units.log2 - 52) ∣ units := Nat.dvd_of_mod_eq_zero hfits.2
  exact Nat.dvd_trans (Nat.pow_dvd_pow 2 (by omega)) hdvd

theorem distance_mul (num den place number : Nat) :
    distance num den (number * place) = distance num (den * place) number := by
  rw [distance, distance]
  congr 2
  push_cast
  ring

/-- All 53 bits are there, unless the last place is a single unit. -/
theorem two_pow_le_roundHalfEven (num den : Nat) :
    (num / den).log2 - 52 = 0 ∨
      2 ^ 52 ≤ roundHalfEven num (den * 2 ^ ((num / den).log2 - 52)) := by
  rcases Nat.lt_or_ge 52 (num / den).log2 with hlarge | hsmall
  · refine .inr (Nat.le_trans ?_ (div_le_roundHalfEven _ _))
    have hpos : num / den ≠ 0 := by
      intro hzero
      rw [hzero] at hlarge
      exact Nat.not_lt_zero _ hlarge
    rw [← Nat.div_div_eq_div_mul, Nat.le_div_iff_mul_le (Nat.two_pow_pos _), ← Nat.pow_add,
      show 52 + ((num / den).log2 - 52) = (num / den).log2 by omega]
    exact Nat.log2_self_le hpos
  · exact .inl (by omega)

/-- No magnitude is nearer to a quotient than the rounded one. -/
theorem distance_roundUnits_le {num den units : Nat} (hden : 0 < den) (hfits : Fits units) :
    distance num den (roundUnits num den) < distance num den units ∨
      units = roundUnits num den ∨
      distance num den (roundUnits num den) = distance num den units ∧
        significand (roundUnits num den) % 2 = 0 := by
  have hbound := roundHalfEven_le_two_pow num den
  have hfull := two_pow_le_roundHalfEven num den
  have hpower : num / den ≠ 0 → 2 ^ (num / den).log2 ≤ num / den := Nat.log2_self_le
  have hunits : roundUnits num den = roundHalfEven num (den * 2 ^ ((num / den).log2 - 52)) *
      2 ^ ((num / den).log2 - 52) := rfl
  rw [hunits]
  generalize hexponent : (num / den).log2 = exponent at *
  have hplace : 0 < den * 2 ^ (exponent - 52) := Nat.mul_pos hden (Nat.two_pow_pos _)
  have hwhole := distance_roundHalfEven_le hplace num
  by_cases hdvd : 2 ^ (exponent - 52) ∣ units
  · obtain ⟨number, rfl⟩ := hdvd
    rw [Nat.mul_comm _ number, distance_mul, distance_mul]
    rcases hwhole number with hlt | rfl | ⟨heq, heven⟩
    · exact .inl hlt
    · exact .inr (.inl rfl)
    · exact .inr (.inr ⟨heq, significand_even hbound hfull heven⟩)
  · -- the power of two below the quotient is nearer than the magnitude
    have hlarge : 52 < exponent := by
      by_contra hsmall
      rw [show exponent - 52 = 0 by omega] at hdvd
      exact hdvd (Nat.one_dvd units)
    have hpos : num / den ≠ 0 := by
      intro hzero
      rw [hzero] at hexponent
      exact Nat.ne_of_gt (Nat.lt_of_le_of_lt (Nat.zero_le _) hlarge) hexponent.symm
    have hbelow : units < 2 ^ exponent := by
      by_contra hge
      exact hdvd (two_pow_dvd_of_le hfits (Nat.not_lt.mp hge))
    have hnearer := distance_lt_of_lt hden hbelow (hpower hpos)
    have hsplit : 2 ^ exponent = 2 ^ 52 * 2 ^ (exponent - 52) := by
      rw [← Nat.pow_add]
      congr 1
      omega
    rw [hsplit, distance_mul] at hnearer
    rw [distance_mul]
    have hrounded := hwhole (2 ^ 52)
    refine .inl (Nat.lt_of_le_of_lt ?_ hnearer)
    rcases hrounded with hlt | heq | ⟨heq, -⟩
    · exact Nat.le_of_lt hlt
    · exact Nat.le_of_eq (heq ▸ rfl)
    · exact Nat.le_of_eq heq

/-! ## Values -/

/-- The value of a finite number. -/
def value? : Binary64 → Option ℚ
  | finite negative units _ => some ((signed negative units : ℚ) / unitsInOne)
  | _ => none

theorem unitsInOne_cast_pos : (0 : ℚ) < unitsInOne := Nat.cast_pos.mpr unitsInOne_pos

theorem value?_finite_iff {negative : Bool} {units : Nat} {fits : Fits units} {exact : ℚ} :
    (finite negative units fits).value? = some exact ↔
      exact * unitsInOne = signed negative units := by
  show some ((signed negative units : ℚ) / unitsInOne) = some exact ↔ _
  rw [Option.some_inj, div_eq_iff (ne_of_gt unitsInOne_cast_pos), eq_comm]

/-- Is the last of the significant bits zero? -/
def IsEven : Binary64 → Prop
  | finite _ units _ => significand units % 2 = 0
  | _ => False

/-- A finite number of which no other is nearer to the exact value, and the even one of two that are
equally near. -/
structure IsNearest (number : Binary64) (exact : ℚ) : Prop where
  nearest : ∃ value, number.value? = some value ∧
    ∀ (other : Binary64) (otherValue : ℚ), other.value? = some otherValue →
      |value - exact| < |otherValue - exact| ∨ otherValue = value ∨
        |value - exact| = |otherValue - exact| ∧ number.IsEven

theorem cast_mul_div_mul (a : Int) (c : Nat) {d : Nat} (hd : 0 < d) :
    ((a * d : Int) : ℚ) / (c * d : Nat) = a / c := by
  have hd' : (d : ℚ) ≠ 0 := Nat.cast_ne_zero.mpr (Nat.ne_of_gt hd)
  rw [Int.cast_mul, Int.cast_natCast, Nat.cast_mul, mul_div_mul_right _ _ hd']

theorem abs_div_sub_div (a b : Int) (d : Nat) :
    |(a : ℚ) / d - b / d| = ((a - b).natAbs : ℚ) / d := by
  rw [← sub_div, ← Int.cast_sub, abs_div, Nat.abs_cast, Nat.cast_natAbs, Int.cast_abs]

theorem abs_sub_quotient (position exact : Int) {den : Nat} (hden : 0 < den) :
    |(position : ℚ) / unitsInOne - exact / (den * unitsInOne : Nat)| =
      ((position * den - exact).natAbs : ℚ) / (den * unitsInOne : Nat) := by
  rw [← cast_mul_div_mul position unitsInOne hden, Nat.mul_comm den, abs_div_sub_div]

theorem natAbs_same_sign (negative : Bool) (num den units : Nat) :
    (signed negative units * den - signed negative num).natAbs = distance num den units := by
  cases negative with
  | false =>
      show ((units : Int) * den - num).natAbs = ((num : Int) - units * den).natAbs
      omega
  | true =>
      show (-(units : Int) * den - -(num : Int)).natAbs = ((num : Int) - units * den).natAbs
      rw [Int.neg_mul]
      omega

theorem natAbs_other_sign (negative : Bool) (num den units : Nat) :
    (signed (!negative) units * den - signed negative num).natAbs = units * den + num := by
  cases negative with
  | false =>
      show (-(units : Int) * den - num).natAbs = units * den + num
      rw [Int.neg_mul]
      omega
  | true =>
      show ((units : Int) * den - -(num : Int)).natAbs = units * den + num
      omega

theorem signed_mul (negative : Bool) (units factor : Nat) :
    signed negative units * factor = signed negative (units * factor) := by
  cases negative with
  | false => exact (Int.natCast_mul units factor).symm
  | true =>
      show -(units : Int) * factor = -((units * factor : Nat) : Int)
      rw [Int.neg_mul, Int.natCast_mul]

theorem signed_natAbs (n : Int) : signed (decide (n < 0)) n.natAbs = n := by
  rw [signed]
  split
  · next hneg =>
      have hneg := of_decide_eq_true hneg
      omega
  · next hpos =>
      have hpos := of_decide_eq_false (Bool.eq_false_iff.mpr hpos)
      omega

section Signs

variable {num den rounded : Nat} {even : Prop} (hden : 0 < den)

include hden

/-- What is as near as zero is nearer than a number of the other sign. -/
theorem distance_le_add (hzero : distance num den rounded < distance num den 0 ∨ 0 = rounded ∨
      distance num den rounded = distance num den 0 ∧ even) (units : Nat) :
    distance num den rounded < units * den + num ∨ (units = 0 ∧ rounded = 0) ∨
      distance num den rounded = units * den + num ∧ even := by
  have hnum : distance num den 0 = num := by
    rw [distance, Int.natCast_zero, Int.zero_mul, Int.sub_zero, Int.natAbs_natCast]
  rw [hnum] at hzero
  by_cases hunits : units = 0
  · rw [hunits, Nat.zero_mul, Nat.zero_add]
    rcases hzero with hnearer | heq | heven
    · exact .inl hnearer
    · exact .inr (.inl ⟨rfl, heq.symm⟩)
    · exact .inr (.inr heven)
  · have hapart : 0 < units * den := Nat.mul_pos (Nat.pos_of_ne_zero hunits) hden
    have hle : distance num den rounded ≤ num := by
      rcases hzero with hnearer | heq | ⟨heq, -⟩
      · exact Nat.le_of_lt hnearer
      · rw [← heq, hnum]
      · exact Nat.le_of_eq heq
    exact .inl (by omega)

/-- The nearest of some magnitudes, zero among them, is the nearest of these magnitudes with both
signs. -/
theorem natAbs_nearest {admitted : Nat → Prop} (hzero : admitted 0)
    (h : ∀ units, admitted units → distance num den rounded < distance num den units ∨
      units = rounded ∨ distance num den rounded = distance num den units ∧ even)
    (negative sign : Bool) {units : Nat} (hunits : admitted units) :
    (signed negative rounded * den - signed negative num).natAbs <
        (signed sign units * den - signed negative num).natAbs ∨
      signed sign units = signed negative rounded ∨
      (signed negative rounded * den - signed negative num).natAbs =
        (signed sign units * den - signed negative num).natAbs ∧ even := by
  rw [natAbs_same_sign]
  by_cases hsign : sign = negative
  · rw [hsign, natAbs_same_sign]
    rcases h units hunits with hnearer | heq | heven
    · exact .inl hnearer
    · exact .inr (.inl (by rw [heq]))
    · exact .inr (.inr heven)
  · have hflip : sign = !negative := Bool.eq_not.mpr hsign
    rw [hflip, natAbs_other_sign]
    rcases distance_le_add hden (h 0 hzero) units with hnearer | ⟨hnone, hrounded⟩ | heven
    · exact .inl hnearer
    · refine .inr (.inl ?_)
      rw [hnone, hrounded]
      cases negative <;> rfl
    · exact .inr (.inr heven)

end Signs

/-- A quotient is rounded to the number nearest to it, if that is finite. -/
theorem isNearest_ofRatio (negative : Bool) {num den : Nat} (hden : 0 < den)
    (hlt : roundUnits num den < unitsAtOverflow) :
    IsNearest (ofRatio negative num den)
      ((signed negative num : ℚ) / (den * unitsInOne : Nat)) := by
  have hpos : (0 : ℚ) < (den * unitsInOne : Nat) :=
    Nat.cast_pos.mpr (Nat.mul_pos hden unitsInOne_pos)
  rw [ofRatio, dif_pos hlt]
  refine ⟨_, rfl, ?_⟩
  intro other otherValue hother
  cases other with
  | nan => cases hother
  | infinity => cases hother
  | finite sign units fits =>
      obtain rfl := Option.some.inj hother
      rw [abs_sub_quotient _ _ hden, abs_sub_quotient _ _ hden,
        div_lt_div_iff_of_pos_right hpos, div_left_inj' (ne_of_gt hpos), Nat.cast_lt, Nat.cast_inj]
      rcases natAbs_nearest hden fits_zero (fun _ => distance_roundUnits_le hden) negative sign fits
        with hnearer | heq | heven
      · exact .inl hnearer
      · exact .inr (.inl (by rw [heq]))
      · exact .inr (.inr heven)

end Binary64

end Heartbeat
