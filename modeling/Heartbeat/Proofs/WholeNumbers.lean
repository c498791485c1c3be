import Heartbeat.Proofs.NearestQuotient
import Heartbeat.Proofs.NumberOrder
import Heartbeat.Proofs.ProgressLine

/-!
# Arithmetic with whole numbers

Whole numbers below `2 ^ 53` are added and subtracted without a loss as long as the result is one of
them (`IsWhole.add`, `IsWhole.sub`), and a quotient of two is the number nearest to the exact one
(`IsWhole.isNearest_div`). Zero stands in one place with either sign, so a whole number is known by
where it stands.
-/

namespace Heartbeat.Binary64

/-- A number that is this whole number, a zero of either sign included. -/
def IsWhole (number : Binary64) (n : Int) : Prop := number.position = some (n * unitsInOne)

theorem two_pow_mul_two_pow {m n : Nat} (h : m + n = 1074) : 2 ^ m * 2 ^ n = unitsInOne :=
  (Nat.pow_add 2 m n).symm.trans (congrArg (2 ^ ·) h)

theorem unitsInOne_pos' : (0 : Int) < unitsInOne := Int.natCast_pos.mpr unitsInOne_pos

/-- A zero of either sign is the whole number zero. -/
theorem isWhole_zero_iff {number : Binary64} : IsWhole number 0 ↔ number.position = some 0 := by
  rw [IsWhole, Int.zero_mul]

theorem IsWhole.unique {number : Binary64} {m n : Int} (hm : IsWhole number m)
    (hn : IsWhole number n) : m = n := by
  have heq : m * unitsInOne = n * unitsInOne := Option.some.inj (hm.symm.trans hn)
  exact Int.eq_of_mul_eq_mul_right (ne_of_gt unitsInOne_pos') heq

theorem isWhole_ofInt {n : Nat} (h : n < 2 ^ 53) : IsWhole (ofInt n) n := by
  rw [IsWhole, ofInt_whole h, position, signed, Int.natCast_mul]
  rfl

theorem isWhole_zero (negative : Bool) : IsWhole (zero negative) 0 := by
  rw [IsWhole, Int.zero_mul]
  cases negative <;> rfl

theorem natAbs_mul_unitsInOne (n : Int) : (n * unitsInOne).natAbs = n.natAbs * unitsInOne := by
  rw [Int.natAbs_mul, Int.natAbs_natCast]

theorem natAbs_signed (negative : Bool) (units : Nat) : (signed negative units).natAbs = units := by
  cases negative with
  | false => exact Int.natAbs_natCast units
  | true => exact (Int.natAbs_neg _).trans (Int.natAbs_natCast units)

theorem IsWhole.exists_finite {number : Binary64} {n : Int} (h : IsWhole number n)
    (hn : n.natAbs < 2 ^ 53) :
    ∃ negative units fits, number = finite negative units fits ∧
      signed negative units = n * unitsInOne := by
  cases number with
  | nan => cases h
  | infinity negative =>
      have hplace : signed negative unitsAtOverflow = n * unitsInOne := Option.some.inj h
      have hlt := whole_lt_unitsAtOverflow hn
      rw [← natAbs_mul_unitsInOne, ← hplace, natAbs_signed] at hlt
      exact absurd hlt (Nat.lt_irrefl _)
  | finite negative units fits => exact ⟨negative, units, fits, rfl, Option.some.inj h⟩

/-! ## Sums and differences -/

theorem position_neg (number : Binary64) :
    (-number).position = number.position.map fun place => -place := by
  cases number with
  | nan => rfl
  | infinity negative =>
      cases negative with
      | false => rfl
      | true => exact congrArg some (Int.neg_neg _).symm
  | finite negative units fits =>
      cases negative with
      | false => rfl
      | true => exact congrArg some (Int.neg_neg _).symm

theorem roundedPosition_of_fits {total : Int} (h : Fits total.natAbs) :
    roundedPosition total = total := by
  have hlt := h.1
  rw [roundedPosition, roundUnits_one_of_fits h, Nat.min_eq_left (Nat.le_of_lt hlt), signed]
  simp only [decide_eq_true_eq]
  omega

theorem IsWhole.neg {a : Binary64} {m : Int} (h : IsWhole a m) : IsWhole (-a) (-m) := by
  rw [IsWhole, position_neg, h, Option.map_some, Int.neg_mul]

/-- Nothing is lost in a sum of whole numbers that is a small one. -/
theorem IsWhole.add {a b : Binary64} {m n : Int} (ha : IsWhole a m) (hb : IsWhole b n)
    (hm : m.natAbs < 2 ^ 53) (hn : n.natAbs < 2 ^ 53) (hsum : (m + n).natAbs < 2 ^ 53) :
    IsWhole (a + b) (m + n) := by
  obtain ⟨s, u, hu, rfl, hplace⟩ := ha.exists_finite hm
  obtain ⟨t, v, hv, rfl, hplace'⟩ := hb.exists_finite hn
  have hfits : Fits ((m + n) * unitsInOne : Int).natAbs := by
    rw [natAbs_mul_unitsInOne]
    exact whole_fits hsum
  show (Binary64.add (finite s u hu) (finite t v hv)).position = _
  rw [position_add_finite, hplace, hplace', ← Int.add_mul, roundedPosition_of_fits hfits]

theorem IsWhole.sub {a b : Binary64} {m n : Int} (ha : IsWhole a m) (hb : IsWhole b n)
    (hm : m.natAbs < 2 ^ 53) (hn : n.natAbs < 2 ^ 53) (hdiff : (m - n).natAbs < 2 ^ 53) :
    IsWhole (a - b) (m - n) := by
  have hneg : (-n).natAbs < 2 ^ 53 := by
    rwa [Int.natAbs_neg]
  exact ha.add hb.neg hm hneg hdiff

/-! ## The larger one -/

theorem IsWhole.lt_iff {a b : Binary64} {m n : Int} (ha : IsWhole a m) (hb : IsWhole b n) :
    a < b ↔ m < n := by
  rw [lt_iff_position]
  constructor
  · intro h
    obtain ⟨x, y, hx, hy, hxy⟩ := h
    cases ha.symm.trans hx
    cases hb.symm.trans hy
    exact Int.lt_of_mul_lt_mul_right hxy (Int.le_of_lt unitsInOne_pos')
  · intro h
    exact ⟨_, _, ha, hb, Int.mul_lt_mul_of_pos_right h unitsInOne_pos'⟩

theorem IsWhole.max {a b : Binary64} {m n : Nat} (ha : IsWhole a m) (hb : IsWhole b n) :
    IsWhole (Binary64.max a b) (Max.max m n : Nat) := by
  have hnan : a ≠ nan := by
    intro hnan
    rw [hnan] at ha
    cases ha
  have hlt := hb.lt_iff ha
  rw [Binary64.max]
  split
  · next hlarger =>
      have hle : n ≤ m := by
        rcases hlarger with hnone | hlarger
        · exact absurd hnone hnan
        · have hless := hlt.mp hlarger
          omega
      rwa [Nat.max_eq_left hle]
  · next hsmaller =>
      have hle : m ≤ n := by
        by_contra hless
        exact hsmaller (.inr (hlt.mpr (by omega)))
      rwa [Nat.max_eq_right hle]

/-! ## Quotients -/

/-- A quotient of whole numbers, the first of them not negative. -/
theorem IsWhole.div_eq {total : Binary64} {n k : Nat} (h : IsWhole total n) (hn : n < 2 ^ 53)
    (hpos : 0 < k) (hk : k < 2 ^ 53) :
    ∃ negative, total / ofInt k = ofRatio negative (n * unitsInOne) k ∧
      ∀ units : Nat, (n = 0 → units = 0) → signed negative units = units := by
  obtain ⟨negative, units, fits, rfl, hplace⟩ := h.exists_finite hn
  have hunits : units = n * unitsInOne := by
    rw [← natAbs_signed negative units, hplace, natAbs_mul_unitsInOne, Int.natAbs_natCast]
  have hden : k * unitsInOne ≠ 0 := Nat.ne_of_gt (Nat.mul_pos hpos unitsInOne_pos)
  refine ⟨negative, ?_, ?_⟩
  · show div _ _ = _
    rw [ofInt_whole hk, div, if_neg hden, hunits, ofRatio_mul_mul unitsInOne_pos]
    cases negative <;> rfl
  · intro count hzero
    cases negative with
    | false => rfl
    | true =>
        have hn : n = 0 := by
          have hle : -(units : Int) = n * unitsInOne := hplace
          have hpos := unitsInOne_pos'
          rw [hunits] at hle
          by_contra hne
          have hprod : 0 < n * unitsInOne := Nat.mul_pos (Nat.pos_of_ne_zero hne) unitsInOne_pos
          omega
        rw [hzero hn]
        rfl

theorem roundUnits_div_le {units : Nat} (hfits : Fits units) {k : Nat} (hpos : 0 < k) :
    roundUnits units k ≤ units :=
  calc roundUnits units k ≤ roundUnits (units * k) k :=
        roundUnits_le_roundUnits (Nat.le_mul_of_pos_right units hpos) k
    _ = units := roundUnits_of_fits hfits hpos

theorem roundUnits_zero {den : Nat} (hden : 0 < den) : roundUnits 0 den = 0 := by
  have hunits := roundUnits_of_fits fits_zero hden
  rwa [Nat.zero_mul] at hunits

section Quotient

variable {total : Binary64} {n k : Nat} (h : IsWhole total n) (hn : n < 2 ^ 53) (hpos : 0 < k)
  (hk : k < 2 ^ 53)

include h hn hpos hk

theorem IsWhole.position_div :
    (total / ofInt k).position = some (roundUnits (n * unitsInOne) k : Int) := by
  obtain ⟨negative, hdiv, hsign⟩ := h.div_eq hn hpos hk
  have hlt : roundUnits (n * unitsInOne) k < unitsAtOverflow :=
    Nat.lt_of_le_of_lt (roundUnits_div_le (whole_fits hn) hpos) (whole_lt_unitsAtOverflow hn)
  rw [hdiv, ofRatio, dif_pos hlt]
  refine congrArg some (hsign _ ?_)
  intro hzero
  rw [hzero, Nat.zero_mul, roundUnits_zero hpos]

/-- A quotient of whole numbers is the number nearest to it. -/
theorem IsWhole.isNearest_div : IsNearest (total / ofInt k) ((n : ℚ) / k) := by
  obtain ⟨negative, hdiv, hsign⟩ := h.div_eq hn hpos hk
  have hlt : roundUnits (n * unitsInOne) k < unitsAtOverflow :=
    Nat.lt_of_le_of_lt (roundUnits_div_le (whole_fits hn) hpos) (whole_lt_unitsAtOverflow hn)
  have hzero : n = 0 → n * unitsInOne = 0 := by
    intro hn
    rw [hn, Nat.zero_mul]
  have hnearest := isNearest_ofRatio negative hpos hlt
  rw [← hdiv, hsign _ hzero] at hnearest
  rw [← mul_div_mul_right (n : ℚ) k (ne_of_gt unitsInOne_cast_pos)]
  push_cast at hnearest
  exact hnearest

end Quotient

/-- A multiple of a whole number, divided, is that number again. -/
theorem IsWhole.div_mul {total : Binary64} {n k : Nat} (h : IsWhole total (n * k : Nat))
    (hn : n * k < 2 ^ 53) (hpos : 0 < k) (hk : k < 2 ^ 53) : IsWhole (total / ofInt k) n := by
  have hle : n ≤ n * k := Nat.le_mul_of_pos_right n hpos
  have hfits : Fits (n * unitsInOne) := whole_fits (Nat.lt_of_le_of_lt hle hn)
  rw [IsWhole, h.position_div hn hpos hk, Nat.mul_right_comm, roundUnits_of_fits hfits hpos,
    Int.natCast_mul]

/-! ## Squares and roots of zero -/

theorem IsWhole.exists_zero {number : Binary64} (h : IsWhole number 0) :
    ∃ negative, number = zero negative := by
  obtain ⟨negative, units, fits, rfl, hplace⟩ := h.exists_finite (by decide)
  have hunits : units = 0 := by
    rw [← natAbs_signed negative units, hplace, Int.zero_mul, Int.natAbs_zero]
  subst hunits
  exact ⟨negative, rfl⟩

theorem IsWhole.mul_self_zero {number : Binary64} (h : IsWhole number 0) :
    IsWhole (number * number) 0 := by
  obtain ⟨negative, rfl⟩ := h.exists_zero
  have hsquare : zero negative * zero negative = zero (negative != negative) := by
    show mul _ _ = _
    rw [zero, mul, Nat.zero_mul, ← Nat.zero_mul unitsInOne,
      ofRatio_of_fits _ fits_zero unitsInOne_pos]
    rfl
  rw [hsquare]
  exact isWhole_zero _

theorem IsWhole.sqrt_zero {number : Binary64} (h : IsWhole number 0) : IsWhole number.sqrt 0 := by
  obtain ⟨negative, rfl⟩ := h.exists_zero
  rw [zero, sqrt, if_pos rfl]
  exact h

end Heartbeat.Binary64
