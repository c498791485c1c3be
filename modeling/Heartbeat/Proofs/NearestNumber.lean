import Heartbeat.Binary64.Basic

/-!
# The nearest binary64 number

Every operation ends with the same step: a quotient of natural numbers is rounded to the nearest
magnitude. That step depends on the quotient alone and not on how it is written
(`roundUnits_mul_mul`), leaves a magnitude as it is (`roundUnits_of_fits`), and keeps the order
(`roundUnits_le_roundUnits`). The last is by the power of two below the quotient: quotients with the
same one are rounded to the same last place, and otherwise a power of two stands between the
results.

A sum is rounded in the same way, so that nothing is gained by adding what is not positive
(`not_lt_add`).

A decimal is read in this way whatever its size: where the reader answers at once, with a zero or an
infinity, the quotient would be rounded to the same (`ofDecimal_eq_ofRatio`). So zeros may be moved
from the digits to the exponent (`ofDecimal_mul_pow`).
-/

namespace Heartbeat

theorem roundHalfEven_mul_mul {factor : Nat} (h : 0 < factor) (num den : Nat) :
    roundHalfEven (num * factor) (den * factor) = roundHalfEven num den := by
  have hquotient : num * factor / (den * factor) = num / den := Nat.mul_div_mul_right num den h
  have hrest : num * factor % (den * factor) = num % den * factor :=
    Nat.mul_mod_mul_right factor num den
  have hlt : 2 * (num % den * factor) < den * factor ↔ 2 * (num % den) < den := by
    rw [← Nat.mul_assoc, Nat.mul_lt_mul_right h]
  have heq : 2 * (num % den * factor) = den * factor ↔ 2 * (num % den) = den := by
    rw [← Nat.mul_assoc, Nat.mul_left_inj (by omega)]
  rw [roundHalfEven, roundHalfEven]
  simp only [hquotient, hrest, hlt, heq]

theorem roundHalfEven_le_roundHalfEven {num num' : Nat} (h : num ≤ num') (den : Nat) :
    roundHalfEven num den ≤ roundHalfEven num' den := by
  have hquotient : num / den ≤ num' / den := Nat.div_le_div_right h
  rcases Nat.lt_or_eq_of_le hquotient with hlt | heq
  · calc roundHalfEven num den ≤ num / den + 1 := roundHalfEven_le_div_succ num den
      _ ≤ num' / den := hlt
      _ ≤ roundHalfEven num' den := div_le_roundHalfEven num' den
  · have hrest : num % den ≤ num' % den := by
      have hnum := Nat.div_add_mod num den
      have hnum' := Nat.div_add_mod num' den
      rw [heq] at hnum
      omega
    rw [roundHalfEven, roundHalfEven]
    simp only [heq]
    split
    · split <;> omega
    · next hup =>
        have hup' : ¬ (2 * (num' % den) < den ∨
            2 * (num' % den) = den ∧ num' / den % 2 = 0) := by omega
        exact Nat.le_of_eq (if_neg hup').symm

theorem roundHalfEven_eq_zero {num den : Nat} (h : 2 * num < den) : roundHalfEven num den = 0 := by
  have hlt : num < den := by omega
  rw [roundHalfEven, Nat.div_eq_of_lt hlt, Nat.mod_eq_of_lt hlt]
  exact if_pos (.inl h)

namespace Binary64

theorem unitsInOne_pos : 0 < unitsInOne := by
  rw [unitsInOne]
  apply Nat.two_pow_pos

/-! ## Rounding to a magnitude -/

theorem roundUnits_mul_mul {factor : Nat} (h : 0 < factor) (num den : Nat) :
    roundUnits (num * factor) (den * factor) = roundUnits num den := by
  have hquotient : num * factor / (den * factor) = num / den := Nat.mul_div_mul_right num den h
  rw [roundUnits, roundUnits, hquotient]
  simp only [Nat.mul_right_comm den factor, roundHalfEven_mul_mul h]

/-- A magnitude is rounded to itself. -/
theorem roundUnits_of_fits {units den : Nat} (hfits : Fits units) (hden : 0 < den) :
    roundUnits (units * den) den = units := by
  have hplace : 0 < 2 ^ (units.log2 - 52) := Nat.two_pow_pos _
  have hwhole : units / 2 ^ (units.log2 - 52) * 2 ^ (units.log2 - 52) = units :=
    Nat.div_mul_cancel (Nat.dvd_of_mod_eq_zero hfits.2)
  rw [roundUnits, Nat.mul_div_cancel units hden]
  generalize 2 ^ (units.log2 - 52) = place at hplace hwhole ⊢
  calc roundHalfEven (units * den) (den * place) * place
      = roundHalfEven (units / place * (den * place)) (den * place) * place := by
        rw [Nat.mul_comm den place, ← Nat.mul_assoc, hwhole]
    _ = units / place * place := by
        rw [roundHalfEven_mul_right (Nat.mul_pos hden hplace)]
    _ = units := hwhole

theorem two_pow_le_roundUnits {num den exponent : Nat} (h : 2 ^ exponent ≤ num / den) :
    2 ^ exponent ≤ roundUnits num den := by
  have hpos : num / den ≠ 0 := Nat.ne_of_gt (Nat.lt_of_lt_of_le (Nat.two_pow_pos _) h)
  have hle : exponent ≤ (num / den).log2 := (Nat.le_log2 hpos).mpr h
  have hdvd : 2 ^ ((num / den).log2 - 52) ∣ 2 ^ (num / den).log2 :=
    Nat.pow_dvd_pow 2 (Nat.sub_le _ _)
  calc 2 ^ exponent ≤ 2 ^ (num / den).log2 := Nat.pow_le_pow_right (by decide) hle
    _ = 2 ^ (num / den).log2 / 2 ^ ((num / den).log2 - 52) * 2 ^ ((num / den).log2 - 52) :=
        (Nat.div_mul_cancel hdvd).symm
    _ ≤ num / den / 2 ^ ((num / den).log2 - 52) * 2 ^ ((num / den).log2 - 52) :=
        Nat.mul_le_mul_right _ (Nat.div_le_div_right (Nat.log2_self_le hpos))
    _ ≤ roundUnits num den := by
        rw [Nat.div_div_eq_div_mul]
        exact Nat.mul_le_mul_right _ (div_le_roundHalfEven _ _)

theorem roundUnits_le_two_pow (num den : Nat) :
    roundUnits num den ≤ 2 ^ ((num / den).log2 + 1) := by
  have hdvd : 2 ^ ((num / den).log2 - 52) ∣ 2 ^ ((num / den).log2 + 1) :=
    Nat.pow_dvd_pow 2 (by omega)
  have hlt : num / den / 2 ^ ((num / den).log2 - 52) <
      2 ^ ((num / den).log2 + 1) / 2 ^ ((num / den).log2 - 52) :=
    Nat.div_lt_div_of_lt_of_dvd hdvd Nat.lt_log2_self
  calc roundUnits num den
      ≤ (num / den / 2 ^ ((num / den).log2 - 52) + 1) * 2 ^ ((num / den).log2 - 52) := by
        rw [Nat.div_div_eq_div_mul]
        exact Nat.mul_le_mul_right _ (roundHalfEven_le_div_succ _ _)
    _ ≤ 2 ^ ((num / den).log2 + 1) / 2 ^ ((num / den).log2 - 52) *
          2 ^ ((num / den).log2 - 52) := Nat.mul_le_mul_right _ hlt
    _ = 2 ^ ((num / den).log2 + 1) := Nat.div_mul_cancel hdvd

theorem roundUnits_le_roundUnits {num num' : Nat} (h : num ≤ num') (den : Nat) :
    roundUnits num den ≤ roundUnits num' den := by
  have hquotient : num / den ≤ num' / den := Nat.div_le_div_right h
  have hlog : (num / den).log2 ≤ (num' / den).log2 := by
    rcases Nat.eq_zero_or_pos (num / den) with hzero | hpos
    · rw [hzero]
      exact Nat.zero_le _
    · rw [Nat.le_log2 (by omega)]
      exact Nat.le_trans (Nat.log2_self_le (by omega)) hquotient
  rcases Nat.lt_or_eq_of_le hlog with hlt | heq
  · have hpos : num' / den ≠ 0 := by
      intro hzero
      rw [hzero] at hlt
      exact Nat.not_lt_zero _ hlt
    calc roundUnits num den ≤ 2 ^ ((num / den).log2 + 1) := roundUnits_le_two_pow num den
      _ ≤ 2 ^ (num' / den).log2 := Nat.pow_le_pow_right (by decide) hlt
      _ ≤ roundUnits num' den := two_pow_le_roundUnits (Nat.log2_self_le hpos)
  · rw [roundUnits, roundUnits, heq]
    exact Nat.mul_le_mul_right _ (roundHalfEven_le_roundHalfEven h _)

theorem ofRatio_of_fits {units den : Nat} (negative : Bool) (hfits : Fits units)
    (hden : 0 < den) : ofRatio negative (units * den) den = finite negative units hfits := by
  have hunits := roundUnits_of_fits hfits hden
  rw [ofRatio, dif_pos (by rw [hunits]; exact hfits.1)]
  simp only [hunits]

theorem ofRatio_mul_mul {factor : Nat} (h : 0 < factor) (negative : Bool) (num den : Nat) :
    ofRatio negative (num * factor) (den * factor) = ofRatio negative num den := by
  rw [ofRatio, ofRatio]
  simp only [roundUnits_mul_mul h]

/-! ## Decimals -/

theorem ofRatio_of_overflow {num den : Nat} (negative : Bool)
    (h : unitsAtOverflow ≤ num / den) : ofRatio negative num den = infinity negative := by
  have hle : unitsAtOverflow ≤ roundUnits num den := by
    rw [unitsAtOverflow] at h ⊢
    exact two_pow_le_roundUnits h
  exact dif_neg (Nat.not_lt.mpr hle)

theorem ofRatio_of_underflow {num den : Nat} (negative : Bool) (h : 2 * num < den) :
    ofRatio negative num den = zero negative := by
  have hunits : roundUnits num den = 0 := by
    rw [roundUnits, Nat.div_eq_of_lt (by omega : num < den)]
    simp [roundHalfEven_eq_zero h]
  rw [ofRatio, dif_pos (by rw [hunits]; exact unitsAtOverflow_pos)]
  simp only [hunits]
  rfl

/-- Above the bound for large exponents every decimal overflows. -/
theorem overflows_of_exponent {digits exponent : Nat} (hdigits : 0 < digits)
    (h : 310 ≤ exponent) : unitsAtOverflow ≤ digits * 10 ^ exponent * unitsInOne := by
  have hten : 2 ^ 1024 ≤ 10 ^ 310 := by decide +kernel
  have hpower : 10 ^ 310 ≤ digits * 10 ^ exponent := by
    refine Nat.le_trans ?_ (Nat.le_mul_of_pos_left _ hdigits)
    apply Nat.pow_le_pow_right
    · decide
    · exact h
  calc unitsAtOverflow = 2 ^ 1024 * unitsInOne := by
        rw [unitsAtOverflow, unitsInOne, ← Nat.pow_add]
    _ ≤ digits * 10 ^ exponent * unitsInOne :=
      Nat.mul_le_mul_right _ (Nat.le_trans hten hpower)

/-- Below the bound for small decimals they are less than half a unit: a negative power of ten is at
most the same power of eight. -/
theorem underflows_of_log2 {digits places : Nat} (h : digits.log2 + 1 + 1075 < 3 * places) :
    2 * (digits * unitsInOne) < 10 ^ places := by
  have hlt : digits * unitsInOne < 2 ^ (digits.log2 + 1) * unitsInOne :=
    Nat.mul_lt_mul_of_pos_right Nat.lt_log2_self unitsInOne_pos
  calc 2 * (digits * unitsInOne) < 2 * (2 ^ (digits.log2 + 1) * unitsInOne) := by omega
    _ = 2 ^ (digits.log2 + 1 + 1074 + 1) := by rw [unitsInOne, ← Nat.pow_add, ← Nat.pow_succ']
    _ ≤ 2 ^ (3 * places) := Nat.pow_le_pow_right (by decide) (by omega)
    _ = 8 ^ places := Nat.pow_mul 2 3 places
    _ ≤ 10 ^ places := Nat.pow_le_pow_left (by decide) places

/-- A decimal is read as the number nearest to it. -/
theorem ofDecimal_eq_ofRatio {digits : Nat} (negative : Bool) (hdigits : 0 < digits)
    (exponent : Int) :
    ofDecimal negative digits exponent =
      ofRatio negative (digits * 10 ^ exponent.toNat * unitsInOne) (10 ^ (-exponent).toNat) := by
  rw [ofDecimal, if_neg (by omega)]
  split
  · next hlarge =>
      have hden : (-exponent).toNat = 0 := by omega
      rw [hden, Nat.pow_zero, ofRatio_of_overflow]
      rw [Nat.div_one]
      exact overflows_of_exponent hdigits (by omega)
  · split
    · next hsmall =>
        have hnum : exponent.toNat = 0 := by omega
        rw [hnum, Nat.pow_zero, Nat.mul_one, ofRatio_of_underflow]
        exact underflows_of_log2 (by omega)
    · rfl

/-- Zeros at the end of the digits may be counted in the exponent instead. -/
theorem ofDecimal_mul_pow {digits : Nat} (negative : Bool) (hdigits : 0 < digits) (zeros : Nat)
    (exponent : Int) :
    ofDecimal negative (digits * 10 ^ zeros) exponent =
      ofDecimal negative digits (exponent + zeros) := by
  have hpos : 0 < digits * 10 ^ zeros := Nat.mul_pos hdigits (Nat.pow_pos (by decide))
  rw [ofDecimal_eq_ofRatio negative hpos, ofDecimal_eq_ofRatio negative hdigits]
  -- both quotients have these powers of ten, apart from a common one
  obtain ⟨common, hnum, hden⟩ : ∃ common,
      exponent.toNat + zeros = (exponent + zeros).toNat + common ∧
        (-exponent).toNat = (-(exponent + zeros)).toNat + common :=
    ⟨min zeros (-exponent).toNat, by omega, by omega⟩
  have hsame : digits * 10 ^ zeros * 10 ^ exponent.toNat * unitsInOne =
      digits * 10 ^ (exponent + zeros).toNat * unitsInOne * 10 ^ common :=
    calc digits * 10 ^ zeros * 10 ^ exponent.toNat * unitsInOne
        = digits * 10 ^ (exponent.toNat + zeros) * unitsInOne := by
          rw [Nat.mul_assoc digits, ← Nat.pow_add, Nat.add_comm zeros]
      _ = digits * 10 ^ (exponent + zeros).toNat * unitsInOne * 10 ^ common := by
          rw [hnum, Nat.pow_add, ← Nat.mul_assoc digits, Nat.mul_right_comm _ _ unitsInOne]
  rw [hsame, hden, Nat.pow_add, ofRatio_mul_mul (Nat.pow_pos (by decide))]

theorem ofRatio_of_eq_finite {num den units : Nat} {sign : Bool} {fits : Fits units}
    (h : ofRatio false num den = finite sign units fits) (negative : Bool) :
    ofRatio negative num den = finite negative units fits := by
  rw [ofRatio] at h ⊢
  split at h
  · next hunits =>
      cases h
      rw [dif_pos hunits]
  · cases h

/-- The sign of a decimal is the sign of the number that it is read as. -/
theorem ofDecimal_of_eq_finite {digits units : Nat} {exponent : Int} {sign : Bool}
    {fits : Fits units} (h : ofDecimal false digits exponent = finite sign units fits)
    (negative : Bool) : ofDecimal negative digits exponent = finite negative units fits := by
  rcases Nat.eq_zero_or_pos digits with rfl | hpos
  · rw [ofDecimal, if_pos rfl] at h ⊢
    cases h
    rfl
  · rw [ofDecimal_eq_ofRatio _ hpos] at h ⊢
    exact ofRatio_of_eq_finite h negative

/-! ## Sums -/

theorem position_zero : (0 : Binary64).position = some 0 := by decide +kernel

theorem not_pos_iff {number : Binary64} :
    ¬ 0 < number ↔ ∀ x, number.position = some x → x ≤ 0 := by
  show ¬ lt 0 number = true ↔ _
  rw [lt, position_zero]
  cases number.position with
  | none => simp
  | some x => simp

/-- Where a number of units stands after rounding. An overflow stands at the threshold. -/
def roundedPosition (total : Int) : Int :=
  signed (total < 0) (min (roundUnits total.natAbs 1) unitsAtOverflow)

theorem position_ofRatio (negative : Bool) (num den : Nat) :
    (ofRatio negative num den).position =
      some (signed negative (min (roundUnits num den) unitsAtOverflow)) := by
  rw [ofRatio]
  split
  · next hlt => rw [Nat.min_eq_left (Nat.le_of_lt hlt)]; rfl
  · next hge => rw [Nat.min_eq_right (Nat.not_lt.mp hge)]; rfl

theorem roundUnits_one_of_fits {units : Nat} (hfits : Fits units) : roundUnits units 1 = units := by
  have hunits := roundUnits_of_fits hfits Nat.one_pos
  rwa [Nat.mul_one] at hunits

theorem position_add_finite (s t : Bool) {m n : Nat} (hm : Fits m) (hn : Fits n) :
    (add (finite s m hm) (finite t n hn)).position =
      some (roundedPosition (signed s m + signed t n)) := by
  rw [add]
  split
  · next hzero =>
      have hround : roundUnits 0 1 = 0 := roundUnits_one_of_fits fits_zero
      rw [hzero, roundedPosition, Int.natAbs_zero, hround, Nat.zero_min]
      cases s <;> cases t <;> rfl
  · exact position_ofRatio _ _ 1

/-- Rounding does not pass a number of the format. -/
theorem roundedPosition_le {total : Int} {negative : Bool} {units : Nat} (hfits : Fits units)
    (h : total ≤ signed negative units) : roundedPosition total ≤ signed negative units := by
  have hunits := roundUnits_one_of_fits hfits
  have hoverflow := hfits.1
  rw [roundedPosition]
  cases negative with
  | false =>
      change total ≤ units at h
      show _ ≤ (units : Int)
      by_cases hneg : total < 0
      · simp only [hneg, decide_true, signed, if_true]
        omega
      · have hround := roundUnits_le_roundUnits (by omega : total.natAbs ≤ units) 1
        simp only [hneg, decide_false, signed]
        omega
  | true =>
      change total ≤ -(units : Int) at h
      show _ ≤ -(units : Int)
      by_cases hneg : total < 0
      · have hround := roundUnits_le_roundUnits (by omega : units ≤ total.natAbs) 1
        simp only [hneg, decide_true, signed, if_true]
        omega
      · obtain ⟨rfl, rfl⟩ : total = 0 ∧ units = 0 := by omega
        rw [Int.natAbs_zero, hunits, Nat.zero_min]
        exact Int.le_refl 0

theorem position_add_le {x d : Binary64} (h : ¬ 0 < d) {before after : Int}
    (hbefore : x.position = some before) (hafter : (x.add d).position = some after) :
    after ≤ before := by
  rw [not_pos_iff] at h
  cases x with
  | nan => cases hbefore
  | infinity s =>
      cases d with
      | nan => cases hafter
      | finite t n hn =>
          exact Int.le_of_eq (Option.some.inj (hafter.symm.trans hbefore))
      | infinity t =>
          rw [add] at hafter
          split at hafter
          · exact Int.le_of_eq (Option.some.inj (hafter.symm.trans hbefore))
          · cases hafter
  | finite s m hm =>
      cases d with
      | nan => cases hafter
      | infinity t =>
          obtain rfl := Option.some.inj hbefore
          obtain rfl := Option.some.inj hafter
          have hoverflow := unitsAtOverflow_pos
          have hx := hm.1
          cases t with
          | false =>
              have hd : (unitsAtOverflow : Int) ≤ 0 := h _ rfl
              omega
          | true =>
              show -(unitsAtOverflow : Int) ≤ signed s m
              rw [signed]
              split <;> omega
      | finite t n hn =>
          have hd : signed t n ≤ 0 := h _ rfl
          rw [position_add_finite] at hafter
          obtain rfl := Option.some.inj hbefore
          obtain rfl := Option.some.inj hafter
          exact roundedPosition_le hm (by omega)

/-- Nothing is gained by adding what is not positive. -/
theorem not_lt_add {x d : Binary64} (h : ¬ 0 < d) : ¬ x < x + d := by
  show ¬ x.lt (x.add d) = true
  rw [lt]
  split
  · next before after hbefore hafter =>
      have hle := position_add_le h hbefore hafter
      simp only [decide_eq_true_eq]
      omega
  · nofun

end Binary64

end Heartbeat
