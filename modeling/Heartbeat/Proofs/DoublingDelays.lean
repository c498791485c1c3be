import Heartbeat.Proofs.Magnitudes
import Heartbeat.Proofs.RetryBudget

/-!
# Pauses that double

Twice a number has the same significant bits, so it is rounded nowhere, not even among the least
numbers, whose last place is one unit for all of them. Only at the end of the range does doubling
leave the exact value, for an infinity, and twice that is the same infinity. Multiplied by two step
after step, as the pauses of a `RetryPolicy` are, a number is therefore its exact multiple by a
power of two, rounded once (`ofRatio_mul_two`, `growing_two`).

Rounding keeps the order (`ofRatio_le_ofRatio`), and so the pauses never get shorter.
-/

namespace Heartbeat

namespace Binary64

/-! ## One doubling -/

theorem ofRatio_one_of_fits (negative : Bool) {units : Nat} (hfits : Fits units) :
    ofRatio negative units 1 = finite negative units hfits := by
  have hsame := ofRatio_of_fits negative hfits Nat.one_pos
  rwa [Nat.mul_one] at hsame

/-- A number that is doubled keeps its significant bits. -/
theorem fits_mul_two_pow_of_fits {units k : Nat} (hfits : Fits units)
    (hlt : units * 2 ^ k < unitsAtOverflow) : Fits (units * 2 ^ k) := by
  obtain ⟨bits, place, hbits, rfl⟩ : ∃ bits place, bits ≤ 2 ^ 53 ∧ units = bits * 2 ^ place :=
    ⟨_, _, Nat.le_of_lt (significand_lt units), (significand_mul hfits).symm⟩
  rw [Nat.mul_assoc, ← Nat.pow_add] at hlt ⊢
  exact fits_mul_two_pow hbits hlt

/-- One more doubling is as if the exact product was rounded only now. -/
theorem ofRatio_mul_two (negative : Bool) {units : Nat} (hfits : Fits units) (k : Nat) :
    ofRatio negative (units * 2 ^ k) 1 * 2 = ofRatio negative (units * 2 ^ (k + 1)) 1 := by
  have htwo : (2 : Binary64) = ofInt (2 : Nat) := rfl
  have hdouble : units * 2 ^ (k + 1) = units * 2 ^ k * 2 := by rw [Nat.pow_succ, Nat.mul_assoc]
  rw [hdouble, htwo]
  by_cases hlt : units * 2 ^ k < unitsAtOverflow
  · rw [ofRatio_one_of_fits negative (fits_mul_two_pow_of_fits hfits hlt),
      finite_mul_ofInt _ _ (by decide)]
  · -- the product is out of range before this doubling, and so it is after it
    have hlarge : unitsAtOverflow ≤ units * 2 ^ k / 1 := by
      rw [Nat.div_one]
      exact Nat.not_lt.mp hlt
    have hlarge' : unitsAtOverflow ≤ units * 2 ^ k * 2 / 1 :=
      Nat.le_trans hlarge (Nat.div_le_div_right (Nat.le_mul_of_pos_right _ (by decide)))
    rw [ofRatio_of_overflow negative hlarge, ofRatio_of_overflow negative hlarge',
      infinity_mul_ofInt negative (by decide) (by decide)]

/-! ## The exact values -/

theorem signed_eq_of_nonneg {negative : Bool} {units : Nat} (h : 0 ≤ signed negative units) :
    signed negative units = units := by
  cases negative with
  | false => rfl
  | true =>
      change 0 ≤ -(units : Int) at h
      show -(units : Int) = units
      omega

/-- The sign bit of a number that is not below zero says nothing of its value. -/
theorem exists_finite_of_nonneg {number : Binary64} {exact : ℚ} (h : number.value? = some exact)
    (hnonneg : 0 ≤ exact) : ∃ negative units, ∃ fits : Fits units,
      number = finite negative units fits ∧ signed negative units = units ∧
        exact * unitsInOne = units := by
  cases number with
  | nan => cases h
  | infinity => cases h
  | finite negative units fits =>
      have hunits := value?_finite_iff.mp h
      have hpos : 0 ≤ signed negative units := by
        rw [← @Int.cast_nonneg_iff ℚ, ← hunits]
        exact mul_nonneg hnonneg (le_of_lt unitsInOne_cast_pos)
      have hsigned := signed_eq_of_nonneg hpos
      rw [hsigned, Int.cast_natCast] at hunits
      exact ⟨negative, units, fits, rfl, hsigned, hunits⟩

section Doubled

variable {negative : Bool} {units : Nat} (k : Nat)

theorem lt_iff_lt_unitsAtOverflow {exact : ℚ} (hunits : exact * unitsInOne = units) :
    exact * 2 ^ k < 2 ^ 1024 ↔ units * 2 ^ k < unitsAtOverflow := by
  have hoverflow : unitsAtOverflow = 2 ^ 1024 * unitsInOne := by
    rw [unitsAtOverflow, unitsInOne, ← Nat.pow_add]
  rw [← mul_lt_mul_iff_left₀ unitsInOne_cast_pos, mul_right_comm, hunits, hoverflow,
    ← @Nat.cast_lt ℚ, Nat.cast_mul, Nat.cast_mul, Nat.cast_pow, Nat.cast_pow, Nat.cast_ofNat]

theorem value?_doubled (fits : Fits units) (hsigned : signed negative units = units) {exact : ℚ}
    (hunits : exact * unitsInOne = units) (hlt : units * 2 ^ k < unitsAtOverflow) :
    (ofRatio negative (units * 2 ^ k) 1).value? = some (exact * 2 ^ k) := by
  rw [ofRatio_one_of_fits negative (fits_mul_two_pow_of_fits fits hlt), value?_finite_iff,
    ← signed_mul, hsigned, mul_right_comm, hunits]
  push_cast
  rfl

theorem doubled_of_overflow (hsigned : signed negative units = units)
    (hle : unitsAtOverflow ≤ units * 2 ^ k) :
    ofRatio negative (units * 2 ^ k) 1 = infinity false := by
  cases negative with
  | false => exact ofRatio_of_overflow false (by rwa [Nat.div_one])
  | true =>
      -- a zero with its sign bit set does not overflow
      have hpos := Nat.lt_of_lt_of_le unitsAtOverflow_pos hle
      have hzero : units = 0 := by
        change -(units : Int) = units at hsigned
        omega
      rw [hzero, Nat.zero_mul] at hpos
      cases hpos

end Doubled

end Binary64

namespace RetryPolicy

open Binary64

/-! ## The pauses of a policy -/

theorem take_growing (factor : Binary64) (count limit : Nat) (delay : Binary64) :
    (growing factor limit delay).take count = growing factor (min count limit) delay := by
  induction limit generalizing count delay with
  | zero =>
      rw [growing, Nat.min_zero, List.take_nil]
      rfl
  | succ limit ih =>
      cases count with
      | zero =>
          rw [Nat.zero_min]
          rfl
      | succ count =>
          rw [growing, List.take_succ_cons, ih, Nat.succ_min_succ]
          rfl

/-- Pauses that double are powers of two apart. -/
theorem growing_two (negative : Bool) {units : Nat} (hfits : Fits units) (count first : Nat) :
    growing 2 count (ofRatio negative (units * 2 ^ first) 1) =
      (List.range' first count).map fun k => ofRatio negative (units * 2 ^ k) 1 := by
  induction count generalizing first with
  | zero => rfl
  | succ count ih =>
      rw [growing, ofRatio_mul_two negative hfits, ih, List.range'_succ, List.map_cons]

theorem delays_eq {policy : RetryPolicy} (hfactor : policy.factor = 2) {negative : Bool}
    {units : Nat} {fits : Fits units} (hbackoff : policy.backoff = finite negative units fits) :
    policy.delays policy.limit =
      (List.range policy.limit).map fun k => ofRatio negative (units * 2 ^ k) 1 := by
  have hgrowing := growing_two negative fits policy.limit 0
  rw [Nat.pow_zero, Nat.mul_one, ofRatio_one_of_fits negative fits] at hgrowing
  rw [Sender.delays_limit, hfactor, hbackoff, hgrowing, List.range_eq_range']

/-- Pauses that double never get shorter, also where they overflow. -/
theorem pairwise_le_doubled {negative : Bool} {units : Nat}
    (hsigned : signed negative units = units) (count : Nat) :
    ((List.range count).map fun k => ofRatio negative (units * 2 ^ k) 1).Pairwise (· ≤ ·) := by
  rw [List.pairwise_map]
  refine List.pairwise_lt_range.imp fun {i j} hlt => ofRatio_le_ofRatio ?_ Nat.one_pos
  rw [← signed_mul, ← signed_mul, hsigned, ← Int.natCast_mul, ← Int.natCast_mul]
  exact Int.ofNat_le.mpr (Nat.mul_le_mul_left _ (Nat.pow_le_pow_right (by decide) (by omega)))

/-- A policy that doubles its pauses does so exactly, from a first pause that is finite and not
below zero: each pause is the first one times a power of two, be it among the least numbers, and an
infinity once this is out of range. There are as many pauses as retries, none if their number is
negative, and none is shorter than one before it. -/
theorem delays_double (policy : RetryPolicy) (hfactor : policy.factor = 2) {initial : ℚ}
    (hbackoff : policy.backoff.value? = some initial) (hnonneg : 0 ≤ initial) :
    ((policy.delays policy.limit).length : Int) = max policy.retries 0 ∧
      (∀ count, policy.delays count = (policy.delays policy.limit).take count) ∧
      (∀ k : Nat, (k : Int) < max policy.retries 0 →
        ∃ delay, (policy.delays policy.limit)[k]? = some delay ∧
          (initial * 2 ^ k < 2 ^ 1024 → delay.value? = some (initial * 2 ^ k)) ∧
          (2 ^ 1024 ≤ initial * 2 ^ k → delay = .infinity false)) ∧
      (policy.delays policy.limit).Pairwise (· ≤ ·) := by
  obtain ⟨negative, units, fits, hnumber, hsigned, hunits⟩ :=
    exists_finite_of_nonneg hbackoff hnonneg
  have hdelays := delays_eq hfactor hnumber
  refine ⟨Sender.length_delays_limit policy, fun count => ?_, fun k hk => ?_, ?_⟩
  · rw [Sender.delays_limit, take_growing, delays]
  · have hlimit : k < policy.limit := by
      rw [limit]
      omega
    refine ⟨ofRatio negative (units * 2 ^ k) 1, ?_, ?_, ?_⟩
    · rw [hdelays, List.getElem?_map, List.getElem?_range hlimit, Option.map_some]
    · intro hlt
      exact value?_doubled k fits hsigned hunits ((lt_iff_lt_unitsAtOverflow k hunits).mp hlt)
    · intro hle
      have hlarge := mt (lt_iff_lt_unitsAtOverflow k hunits).mpr (not_lt.mpr hle)
      exact doubled_of_overflow k hsigned (Nat.not_lt.mp hlarge)
  · rw [hdelays]
    exact pairwise_le_doubled hsigned policy.limit

/-- Three retries, with a first pause of a quarter of the least power of two that is out of
range. -/
def quarterOfOverflow : RetryPolicy :=
  { retries := 3, backoff := finite false (2 ^ 2096) (by decide +kernel) }

theorem value?_of_pow {units exponent : Nat} (fits : Fits units)
    (h : units = 2 ^ exponent * unitsInOne) :
    (finite false units fits).value? = some (2 ^ exponent) := by
  rw [value?_finite_iff]
  show _ = ((units : Int) : ℚ)
  rw [h, Int.cast_natCast, Nat.cast_mul, Nat.cast_pow, Nat.cast_ofNat]

theorem delays_double_of_quarter :
    quarterOfOverflow.factor = 2 ∧ quarterOfOverflow.backoff.value? = some (2 ^ 1022) ∧
      (quarterOfOverflow.delays 3).length = 3 ∧
      (∃ delay, (quarterOfOverflow.delays 3)[1]? = some delay ∧
        delay.value? = some (2 ^ 1022 * 2 ^ 1 : ℚ)) ∧
      (quarterOfOverflow.delays 3)[2]? = some (.infinity false) ∧
      (quarterOfOverflow.delays 3).Pairwise (· ≤ ·) := by
  have hfactor : quarterOfOverflow.factor = 2 := rfl
  have hbackoff : quarterOfOverflow.backoff.value? = some (2 ^ 1022) :=
    value?_of_pow _ (by decide +kernel)
  obtain ⟨hlength, -, hvalues, hsorted⟩ :=
    delays_double quarterOfOverflow hfactor hbackoff (pow_nonneg zero_le_two 1022)
  obtain ⟨second, hsecond, hexact, -⟩ := hvalues 1 (by decide)
  obtain ⟨third, hthird, -, hinfinity⟩ := hvalues 2 (by decide)
  have hbelow : (2 : ℚ) ^ 1022 * 2 ^ 1 < 2 ^ 1024 := by
    rw [← pow_add]
    exact pow_lt_pow_right₀ one_lt_two (by decide)
  have habove : (2 : ℚ) ^ 1024 ≤ 2 ^ 1022 * 2 ^ 2 := by rw [← pow_add]
  rw [hinfinity habove] at hthird
  exact ⟨hfactor, hbackoff, Int.ofNat_inj.mp hlength, ⟨second, hsecond, hexact hbelow⟩, hthird,
    hsorted⟩

end RetryPolicy

end Heartbeat
