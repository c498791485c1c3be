import Heartbeat.Proofs.WholeNumbers

/-!
# How large a result is at least

Rounding keeps the order of what is rounded (`ofRatio_le_ofRatio`). A result that is far enough from
zero does not vanish then, since the powers of two are numbers of the format. A difference that is
not zero is as far from it as the last places of the two numbers allow (`apart_sub`), and so it can
be followed through its square (`Apart.mul_self`), a quotient (`Reaches.div`) and a root
(`Reaches.sqrt`). A sum is not less than its terms if none of them is negative (`le_add_right`).
-/

namespace Heartbeat.Binary64

/-! ## Sums that do not get less -/

theorem signed_not (negative : Bool) (units : Nat) :
    signed (!negative) units = -signed negative units := by
  cases negative with
  | false => rfl
  | true => exact (Int.neg_neg _).symm

theorem roundedPosition_neg (total : Int) :
    roundedPosition (-total) = -roundedPosition total := by
  by_cases hzero : total = 0
  · have hround : roundedPosition 0 = 0 := roundedPosition_of_fits fits_zero
    rw [hzero, Int.neg_zero, hround]
    rfl
  · have hflip : decide (-total < 0) = !decide (total < 0) := by
      rw [← decide_not, decide_eq_decide]
      omega
    rw [roundedPosition, roundedPosition, Int.natAbs_neg, ← signed_not, hflip]

/-- Rounding does not fall below a number of the format. -/
theorem le_roundedPosition {total : Int} {negative : Bool} {units : Nat} (hfits : Fits units)
    (h : signed negative units ≤ total) : signed negative units ≤ roundedPosition total := by
  have hflip := signed_not negative units
  have hle : -total ≤ signed (!negative) units := by omega
  have hrounded := roundedPosition_le hfits hle
  rw [roundedPosition_neg] at hrounded
  omega

theorem zero_le_iff {number : Binary64} :
    0 ≤ number ↔ ∃ place, number.position = some place ∧ 0 ≤ place := by
  rw [le_iff_position, position_zero]
  simp

theorem zero_le_infinity {negative : Bool} (h : 0 ≤ infinity negative) : negative = false := by
  obtain ⟨place, hplace, hpos⟩ := zero_le_iff.mp h
  obtain rfl := Option.some.inj hplace
  have hoverflow := unitsAtOverflow_pos
  cases negative with
  | false => rfl
  | true =>
      change 0 ≤ -(unitsAtOverflow : Int) at hpos
      omega

theorem signed_le_unitsAtOverflow {units : Nat} (hfits : Fits units) (negative : Bool) :
    signed negative units ≤ unitsAtOverflow := by
  have hlt := hfits.1
  cases negative with
  | false =>
      show (units : Int) ≤ unitsAtOverflow
      omega
  | true =>
      show -(units : Int) ≤ unitsAtOverflow
      omega

protected theorem add_comm (a b : Binary64) : a + b = b + a := by
  show add a b = add b a
  cases a with
  | nan => cases b <;> rfl
  | infinity s =>
      cases b with
      | nan => rfl
      | infinity t => cases s <;> cases t <;> rfl
      | finite => rfl
  | finite s m hm =>
      cases b with
      | nan => rfl
      | infinity t => rfl
      | finite t n hn => simp only [add, Int.add_comm, Bool.and_comm]

/-- A sum is not less than its first term if the other one is not negative. -/
theorem le_add_right {a b : Binary64} (ha : 0 ≤ a) (hb : 0 ≤ b) : a ≤ a + b := by
  obtain ⟨x, hx, hxpos⟩ := zero_le_iff.mp ha
  obtain ⟨y, hy, hypos⟩ := zero_le_iff.mp hb
  rw [le_iff_position, hx]
  cases a with
  | nan => cases hx
  | infinity s =>
      obtain rfl := zero_le_infinity ha
      cases b with
      | nan => cases hy
      | infinity t =>
          obtain rfl := zero_le_infinity hb
          exact ⟨x, x, rfl, hx, Int.le_refl x⟩
      | finite t n hn => exact ⟨x, x, rfl, hx, Int.le_refl x⟩
  | finite s m hm =>
      obtain rfl := Option.some.inj hx
      cases b with
      | nan => cases hy
      | infinity t =>
          obtain rfl := zero_le_infinity hb
          exact ⟨_, _, rfl, rfl, signed_le_unitsAtOverflow hm s⟩
      | finite t n hn =>
          obtain rfl := Option.some.inj hy
          exact ⟨_, _, rfl, position_add_finite s t hm hn, le_roundedPosition hm (by omega)⟩

/-! ## Rounding keeps the order -/

/-- Of two quotients with one divisor the larger is not rounded to a smaller number. -/
theorem ofRatio_le_ofRatio {s t : Bool} {m n : Nat} (h : signed s m ≤ signed t n) {den : Nat}
    (hden : 0 < den) : ofRatio s m den ≤ ofRatio t n den := by
  have hzero : min (roundUnits 0 den) unitsAtOverflow = 0 := by
    rw [roundUnits_zero hden, Nat.zero_min]
  have hmono : ∀ {m n}, m ≤ n →
      min (roundUnits m den) unitsAtOverflow ≤ min (roundUnits n den) unitsAtOverflow := by
    intro m n hle
    have hround := roundUnits_le_roundUnits hle den
    omega
  have hplaces := @signed_le_signed (fun m => min (roundUnits m den) unitsAtOverflow) hzero hmono
    s t m n h
  rw [le_iff_position, position_ofRatio, position_ofRatio]
  exact ⟨_, _, rfl, rfl, hplaces⟩

/-! ## Reaching a power of two -/

/-- The number is at least so far from zero, on either side. -/
def Apart (exponent : Nat) (number : Binary64) : Prop :=
  ∃ place, number.position = some place ∧ 2 ^ exponent ≤ place.natAbs

/-- The number is at least so large. -/
def Reaches (exponent : Nat) (number : Binary64) : Prop :=
  ∃ place, number.position = some place ∧ (2 ^ exponent : Nat) ≤ place

theorem Reaches.not_zero {exponent : Nat} {number : Binary64} (h : Reaches exponent number) :
    number.position ≠ some 0 := by
  obtain ⟨place, hplace, hle⟩ := h
  intro hzero
  obtain rfl := Option.some.inj (hplace.symm.trans hzero)
  have hpos := Nat.two_pow_pos exponent
  omega

theorem Reaches.of_le {exponent : Nat} {a b : Binary64} (h : Reaches exponent a) (hle : a ≤ b) :
    Reaches exponent b := by
  obtain ⟨place, hplace, hreach⟩ := h
  obtain ⟨x, y, hx, hy, hxy⟩ := le_iff_position.mp hle
  cases hplace.symm.trans hx
  exact ⟨y, hy, Int.le_trans hreach hxy⟩

theorem two_pow_le_unitsAtOverflow {exponent : Nat} (h : exponent ≤ 2098) :
    2 ^ exponent ≤ unitsAtOverflow := by
  rw [unitsAtOverflow]
  apply Nat.pow_le_pow_right
  · decide
  · exact h

theorem reaches_infinity {exponent : Nat} (hexponent : exponent ≤ 2098) :
    Reaches exponent (infinity false) :=
  ⟨_, rfl, Int.ofNat_le.mpr (two_pow_le_unitsAtOverflow hexponent)⟩

theorem reaches_ofRatio {exponent num den : Nat} (hexponent : exponent ≤ 2098)
    (h : 2 ^ exponent ≤ num / den) : Reaches exponent (ofRatio false num den) := by
  rw [ofRatio]
  split
  · exact ⟨_, rfl, Int.ofNat_le.mpr (two_pow_le_roundUnits h)⟩
  · exact reaches_infinity hexponent

/-- What is large has no minus. -/
theorem Reaches.eq_infinity_or_finite {exponent : Nat} {number : Binary64}
    (h : Reaches exponent number) : number = infinity false ∨
      ∃ units fits, number = finite false units fits ∧ 2 ^ exponent ≤ units := by
  obtain ⟨place, hplace, hle⟩ := h
  have hpos := Nat.two_pow_pos exponent
  cases number with
  | nan => cases hplace
  | infinity negative =>
      obtain rfl := Option.some.inj hplace
      cases negative with
      | false => exact .inl rfl
      | true =>
          change _ ≤ -(unitsAtOverflow : Int) at hle
          omega
  | finite negative units fits =>
      obtain rfl := Option.some.inj hplace
      cases negative with
      | false => exact .inr ⟨units, fits, rfl, Int.ofNat_le.mp hle⟩
      | true =>
          change _ ≤ -(units : Int) at hle
          omega

/-! ## Operations -/

/-- Two numbers that are multiples of a power of two are at least that far apart. -/
theorem apart_sub {exponent m n : Nat} {s t : Bool} {hm : Fits m} {hn : Fits n}
    (hexponent : exponent ≤ 2098) (hdvd : 2 ^ exponent ∣ m) (hdvd' : 2 ^ exponent ∣ n)
    (hne : signed s m ≠ signed t n) : Apart exponent (finite s m hm - finite t n hn) := by
  have hposition : (finite s m hm - finite t n hn).position =
      some (roundedPosition (signed s m - signed t n)) := by
    rw [Int.sub_eq_add_neg, ← signed_not]
    exact position_add_finite s (!t) hm hn
  have hdvd : 2 ^ exponent ∣ (signed s m - signed t n).natAbs := by
    rw [← Int.natCast_dvd]
    apply Int.dvd_sub
    · rwa [Int.natCast_dvd, natAbs_signed]
    · rwa [Int.natCast_dvd, natAbs_signed]
  have hle : 2 ^ exponent ≤ (signed s m - signed t n).natAbs / 1 := by
    rw [Nat.div_one]
    apply Nat.le_of_dvd _ hdvd
    omega
  refine ⟨_, hposition, ?_⟩
  rw [roundedPosition, natAbs_signed]
  exact Nat.le_min.mpr ⟨two_pow_le_roundUnits hle, two_pow_le_unitsAtOverflow hexponent⟩

theorem mul_finite (s t : Bool) {m n : Nat} (hm : Fits m) (hn : Fits n) :
    finite s m hm * finite t n hn = ofRatio (s != t) (m * n) unitsInOne := by
  show mul _ _ = _
  rw [mul]

theorem finite_mul_ofInt (negative : Bool) {units n : Nat} (hfits : Fits units) (hn : n < 2 ^ 53) :
    finite negative units hfits * ofInt n = ofRatio negative (units * n) 1 := by
  have hscale := ofRatio_mul_mul unitsInOne_pos negative (units * n) 1
  rw [Nat.one_mul, Nat.mul_assoc] at hscale
  rw [ofInt_whole hn, mul_finite, Bool.bne_false, hscale]

theorem infinity_mul_ofInt (negative : Bool) {n : Nat} (hpos : 0 < n) (hn : n < 2 ^ 53) :
    infinity negative * ofInt n = infinity negative := by
  have hsome : n * unitsInOne ≠ 0 := Nat.ne_of_gt (Nat.mul_pos hpos unitsInOne_pos)
  rw [ofInt_whole hn]
  show mul _ _ = _
  rw [mul, if_neg hsome, Bool.bne_false]

theorem Apart.mul_self {exponent : Nat} {number : Binary64} (h : Apart (537 + exponent) number)
    (hexponent : 2 * exponent ≤ 2098) : Reaches (2 * exponent) (number * number) := by
  obtain ⟨place, hplace, hle⟩ := h
  cases number with
  | nan => cases hplace
  | infinity negative =>
      cases negative with
      | false => exact reaches_infinity hexponent
      | true => exact reaches_infinity hexponent
  | finite negative units fits =>
      obtain rfl := Option.some.inj hplace
      rw [natAbs_signed] at hle
      rw [mul_finite, bne_self_eq_false]
      refine reaches_ofRatio hexponent ?_
      rw [Nat.le_div_iff_mul_le unitsInOne_pos]
      calc 2 ^ (2 * exponent) * unitsInOne = 2 ^ (537 + exponent) * 2 ^ (537 + exponent) := by
            rw [unitsInOne, ← Nat.pow_add, ← Nat.pow_add]
            congr 1
            omega
        _ ≤ units * units := Nat.mul_le_mul hle hle

/-- A square is not negative. -/
theorem zero_le_mul_self {number : Binary64} (h : number ≠ nan) : 0 ≤ number * number := by
  rw [zero_le_iff]
  cases number with
  | nan => exact absurd rfl h
  | infinity negative =>
      cases negative with
      | false => exact ⟨_, rfl, Int.natCast_nonneg _⟩
      | true => exact ⟨_, rfl, Int.natCast_nonneg _⟩
  | finite negative units fits =>
      rw [mul_finite, bne_self_eq_false, ofRatio]
      split
      · exact ⟨_, rfl, Int.natCast_nonneg _⟩
      · exact ⟨_, rfl, Int.natCast_nonneg _⟩

theorem Reaches.div {exponent : Nat} {number : Binary64} (h : Reaches (exponent + 10) number)
    (hexponent : exponent ≤ 2098) {k : Nat} (hpos : 0 < k) (hk : k < 2 ^ 10) :
    Reaches exponent (number / ofInt k) := by
  have hden : k * unitsInOne ≠ 0 := Nat.ne_of_gt (Nat.mul_pos hpos unitsInOne_pos)
  rw [ofInt_whole (by omega)]
  rcases h.eq_infinity_or_finite with rfl | ⟨units, fits, rfl, hunits⟩
  · exact reaches_infinity hexponent
  · show Reaches exponent (Binary64.div _ _)
    rw [Binary64.div, if_neg hden, ofRatio_mul_mul unitsInOne_pos]
    refine reaches_ofRatio hexponent ?_
    rw [Nat.le_div_iff_mul_le hpos]
    calc 2 ^ exponent * k ≤ 2 ^ exponent * 2 ^ 10 := Nat.mul_le_mul_left _ (Nat.le_of_lt hk)
      _ = 2 ^ (exponent + 10) := (Nat.pow_add 2 exponent 10).symm
      _ ≤ units := hunits

theorem Reaches.sqrt {exponent : Nat} {number : Binary64} (h : Reaches exponent number) :
    Reaches 0 number.sqrt := by
  rcases h.eq_infinity_or_finite with rfl | ⟨units, fits, rfl, hunits⟩
  · exact reaches_infinity (Nat.zero_le _)
  · have hpos : 0 < units := Nat.lt_of_lt_of_le (Nat.two_pow_pos exponent) hunits
    have hradicand : 0 < units * unitsInOne := Nat.mul_pos hpos unitsInOne_pos
    have hroot : 0 < wholeSqrt (units * unitsInOne) := by
      have hupper := (wholeSqrt_spec (units * unitsInOne)).2
      by_contra hnone
      rw [Nat.eq_zero_of_not_pos hnone] at hupper
      omega
    rw [Binary64.sqrt, if_neg (by omega)]
    simp only [Bool.false_eq_true, if_false]
    generalize wholeSqrt (units * unitsInOne) = root at hroot
    refine reaches_ofRatio (Nat.zero_le _) ?_
    rw [Nat.pow_zero]
    split
    · omega
    · omega

end Heartbeat.Binary64
