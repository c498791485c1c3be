import Heartbeat.Power
import Heartbeat.Rounding

/-!
# Binary64 numbers, counted in units

The delays, clock readings and percentages of this library are binary64 numbers, and what is
printed of them depends on their last bit. They are therefore kept as a domain of their own
rather than as machine words: a finite number is a sign and a whole number of units of
`2 ^ -1074`, the smallest positive binary64 number. A count of units is a binary64 magnitude
when it has at most 53 significant bits and lies below the overflow threshold `2 ^ 2098`, and
the type carries the proof of that.

In this form addition is integer addition, comparison is integer comparison, and every other
operation is an exact quotient followed by a single rounding.
-/

namespace Heartbeat

/-- The number one, counted in units. -/
def Binary64.unitsInOne : Nat := 2 ^ 1074

/-- The overflow threshold `2 ^ 1024`, counted in units. -/
def Binary64.unitsAtOverflow : Nat := 2 ^ 2098

/-- A count of units that a binary64 number can have: at most 53 significant bits, and below
the overflow threshold. -/
def Binary64.Fits (units : Nat) : Prop :=
  units < Binary64.unitsAtOverflow ∧ units % 2 ^ (units.log2 - 52) = 0

instance : DecidablePred Binary64.Fits := fun _ => inferInstanceAs (Decidable (_ ∧ _))

/-- A binary64 number. Both zeros are kept apart; all values that are not a number are one. -/
inductive Binary64 where
  | nan
  | infinity (negative : Bool)
  | finite (negative : Bool) (units : Nat) (fits : Binary64.Fits units)
  deriving DecidableEq

namespace Binary64

theorem log2_mul_two_pow_le {k s : Nat} (h : k < 2 ^ 53) : (k * 2 ^ s).log2 ≤ 52 + s := by
  by_cases hk : k * 2 ^ s = 0
  · simp [hk]
  · have : k * 2 ^ s < 2 ^ (53 + s) := by
      rw [Nat.pow_add]; exact Nat.mul_lt_mul_of_pos_right h (Nat.two_pow_pos s)
    have := (Nat.log2_lt hk).2 this
    omega

/-- Fifty-three significant bits, shifted by any amount, fit as long as they do not overflow. -/
theorem fits_mul_two_pow {k s : Nat} (hk : k ≤ 2 ^ 53) (h : k * 2 ^ s < unitsAtOverflow) :
    Fits (k * 2 ^ s) := by
  refine ⟨h, Nat.mod_eq_zero_of_dvd ?_⟩
  rcases Nat.lt_or_eq_of_le hk with hlt | rfl
  · have := log2_mul_two_pow_le (s := s) hlt
    exact Nat.dvd_trans (Nat.pow_dvd_pow 2 (by omega)) (Nat.dvd_mul_left _ _)
  · rw [← Nat.pow_add, Nat.log2_two_pow]
    exact Nat.pow_dvd_pow 2 (by omega)

theorem mul_two_pow_lt_unitsAtOverflow {k s : Nat} (hk : k < 2 ^ 53) (hs : s ≤ 2045) :
    k * 2 ^ s < unitsAtOverflow :=
  calc k * 2 ^ s < 2 ^ 53 * 2 ^ s := Nat.mul_lt_mul_of_pos_right hk (Nat.two_pow_pos s)
    _ = 2 ^ (53 + s) := (Nat.pow_add 2 53 s).symm
    _ ≤ unitsAtOverflow := by
      rw [unitsAtOverflow]
      apply Nat.pow_le_pow_right
      · decide
      · omega

theorem unitsAtOverflow_pos : 0 < unitsAtOverflow := by
  rw [unitsAtOverflow]; apply Nat.two_pow_pos

theorem fits_zero : Fits 0 := ⟨unitsAtOverflow_pos, Nat.zero_mod _⟩

/-- The zero of the given sign. -/
def zero (negative : Bool) : Binary64 := finite negative 0 fits_zero

instance : Inhabited Binary64 := ⟨zero false⟩

/-- A magnitude with its sign, as an integer number of units. -/
def signed (negative : Bool) (units : Nat) : Int :=
  if negative then -(units : Int) else units

/-- Where a number stands on the integer line of units. Infinities stand at the overflow
threshold, beyond all finite numbers; what is not a number stands nowhere. -/
def position : Binary64 → Option Int
  | nan => none
  | infinity negative => some (signed negative unitsAtOverflow)
  | finite negative units _ => some (signed negative units)

/-- Comparison by position; false when either side is not a number. -/
def lt (a b : Binary64) : Bool :=
  match a.position, b.position with
  | some x, some y => x < y
  | _, _ => false

/-- Comparison by position; false when either side is not a number. -/
def le (a b : Binary64) : Bool :=
  match a.position, b.position with
  | some x, some y => x ≤ y
  | _, _ => false

instance : LT Binary64 := ⟨fun a b => a.lt b = true⟩
instance : LE Binary64 := ⟨fun a b => a.le b = true⟩
instance (a b : Binary64) : Decidable (a < b) := inferInstanceAs (Decidable (a.lt b = true))
instance (a b : Binary64) : Decidable (a ≤ b) := inferInstanceAs (Decidable (a.le b = true))

theorem lt_of_lt_of_le {a b c : Binary64} (hab : a < b) (hbc : b ≤ c) : a < c := by
  change a.lt b = true at hab
  change b.le c = true at hbc
  show a.lt c = true
  unfold lt at hab ⊢
  unfold le at hbc
  cases ha : a.position with
  | none => simp [ha] at hab
  | some x =>
      cases hb : b.position with
      | none => simp [hb] at hbc
      | some y =>
          cases hc : c.position with
          | none => simp [hc] at hbc
          | some z =>
              simp only [ha, hb, hc, decide_eq_true_eq] at hab hbc ⊢
              omega

/-! ## Rounding to the format

The last place of a quotient is worth `2 ^ (log2 - 52)` units, one unit at least. Rounding to
a whole number of last places leaves at most `2 ^ 53` of them, so the result fits or it
overflows to an infinity. -/

/-- The magnitude nearest to `num / den` units, with no bound on its size. -/
def roundUnits (num den : Nat) : Nat :=
  let place := 2 ^ ((num / den).log2 - 52)
  roundHalfEven num (den * place) * place

theorem roundHalfEven_le_two_pow (num den : Nat) :
    roundHalfEven num (den * 2 ^ ((num / den).log2 - 52)) ≤ 2 ^ 53 := by
  refine Nat.le_trans (roundHalfEven_le_div_succ _ _) ?_
  rw [← Nat.div_div_eq_div_mul]
  refine (Nat.div_lt_iff_lt_mul (Nat.two_pow_pos _)).2 ?_
  rw [← Nat.pow_add]
  exact Nat.lt_of_lt_of_le Nat.lt_log2_self (Nat.pow_le_pow_right (by decide) (by omega))

/-- The binary64 number nearest to `num / den` units with the given sign. -/
def ofRatio (negative : Bool) (num den : Nat) : Binary64 :=
  if h : roundUnits num den < unitsAtOverflow then
    finite negative (roundUnits num den) (fits_mul_two_pow (roundHalfEven_le_two_pow num den) h)
  else
    infinity negative

/-! ## Arithmetic -/

def neg : Binary64 → Binary64
  | nan => nan
  | infinity negative => infinity (!negative)
  | finite negative units fits => finite (!negative) units fits

/-- A sum of zero is negative only when both terms are. -/
def add : Binary64 → Binary64 → Binary64
  | nan, _ | _, nan => nan
  | infinity s, infinity t => if s = t then infinity s else nan
  | infinity s, finite .. => infinity s
  | finite .., infinity t => infinity t
  | finite s m _, finite t n _ =>
    let total := signed s m + signed t n
    if total = 0 then zero (s && t) else ofRatio (total < 0) total.natAbs 1

def sub (a b : Binary64) : Binary64 := a.add b.neg

/-- Zero times an infinity is not a number. -/
def mul : Binary64 → Binary64 → Binary64
  | nan, _ | _, nan => nan
  | infinity s, infinity t => infinity (s != t)
  | infinity s, finite t n _ | finite t n _, infinity s =>
    if n = 0 then nan else infinity (s != t)
  | finite s m _, finite t n _ => ofRatio (s != t) (m * n) unitsInOne

/-- Division by zero gives an infinity, except of zero itself. -/
def div : Binary64 → Binary64 → Binary64
  | nan, _ | _, nan => nan
  | infinity _, infinity _ => nan
  | infinity s, finite t _ _ => infinity (s != t)
  | finite s _ _, infinity t => zero (s != t)
  | finite s m _, finite t n _ =>
    if n = 0 then (if m = 0 then nan else infinity (s != t))
    else ofRatio (s != t) (m * unitsInOne) n

/-- The whole root of the radicand in units has hundreds of bits more than the result, so that
it, or the half after it when it is not exact, rounds as the true root does. -/
def sqrt : Binary64 → Binary64
  | nan => nan
  | infinity negative => if negative then nan else infinity false
  | finite negative units fits =>
    if units = 0 then finite negative units fits
    else if negative then nan
    else
      let radicand := units * unitsInOne
      let root := wholeSqrt radicand
      ofRatio false (if root * root = radicand then 2 * root else 2 * root + 1) 2

/-- The larger of two numbers; not a number if either is not. Of two equal numbers it is the
second, which shows for the two zeros. -/
def max (a b : Binary64) : Binary64 :=
  if a = nan ∨ b < a then a else b

instance : Neg Binary64 := ⟨neg⟩
instance : Add Binary64 := ⟨add⟩
instance : Sub Binary64 := ⟨sub⟩
instance : Mul Binary64 := ⟨mul⟩
instance : Div Binary64 := ⟨div⟩

/-! ## Whole numbers and decimals -/

/-- The binary64 number nearest to an integer; an infinity if that is too large. -/
def ofInt (n : Int) : Binary64 := ofRatio (n < 0) (n.natAbs * unitsInOne) 1

instance (n : Nat) : OfNat Binary64 n := ⟨ofInt n⟩

/-- The binary64 number nearest to `digits * 10 ^ exponent`. From `10 ^ 310` on every decimal
overflows. A negative power of ten is at most the same power of eight, so a decimal that is
below half a unit by that estimate is zero; neither power is then computed. -/
def ofDecimal (negative : Bool) (digits : Nat) (exponent : Int) : Binary64 :=
  if digits = 0 then zero negative
  else if 310 ≤ exponent then infinity negative
  else if digits.log2 + 1 + 3 * exponent < -1075 then zero negative
  else ofRatio negative (digits * 10 ^ exponent.toNat * unitsInOne) (10 ^ (-exponent).toNat)

instance : OfScientific Binary64 where
  ofScientific digits negativeExponent exponent :=
    ofDecimal false digits (if negativeExponent then -(exponent : Int) else exponent)

/-! ## Bit patterns

Sign, eleven bits of exponent, 52 bits of fraction. An exponent field of zero counts single
units; every further step doubles what the fraction counts and adds the leading bit. -/

/-- The bit pattern; for what is not a number, the quiet one without payload. -/
def toBits : Binary64 → UInt64
  | nan => 0x7ff8000000000000
  | infinity negative => .ofNat ((if negative then 2 ^ 63 else 0) + 2047 * 2 ^ 52)
  | finite negative units _ =>
    let shift := units.log2 - 52
    let magnitude := if units < 2 ^ 52 then units else units / 2 ^ shift + shift * 2 ^ 52
    .ofNat ((if negative then 2 ^ 63 else 0) + magnitude)

/-- The number that a bit pattern stands for. -/
def ofBits (bits : UInt64) : Binary64 :=
  let negative : Bool := 2 ^ 63 ≤ bits.toNat
  let field := bits.toNat / 2 ^ 52 % 2 ^ 11
  let fraction := bits.toNat % 2 ^ 52
  have hfraction : fraction < 2 ^ 52 := Nat.mod_lt _ (Nat.two_pow_pos 52)
  if hmax : field = 2047 then
    if fraction = 0 then infinity negative else nan
  else if field = 0 then
    finite negative (fraction * 2 ^ 0)
      (fits_mul_two_pow (by omega) (mul_two_pow_lt_unitsAtOverflow (by omega) (by omega)))
  else
    have hfield : field < 2 ^ 11 := Nat.mod_lt _ (Nat.two_pow_pos 11)
    finite negative ((2 ^ 52 + fraction) * 2 ^ (field - 1))
      (fits_mul_two_pow (by omega) (mul_two_pow_lt_unitsAtOverflow (by omega) (by omega)))

end Binary64

end Heartbeat
