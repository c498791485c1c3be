import Heartbeat.Proofs.Magnitudes
import Heartbeat.Sender.Basic

/-!
# The longest wait

A wait is told in seconds, and the network counts it in nanoseconds, of which there may be fewer
than `2 ^ 63`. The product is rounded, so that the first number of seconds with too many is not
known from a division. It is `Sender.waitLimit` (`Sender.waitLimit_le_iff`): its own product is too
large, that of the number before it is not, and a product with a whole number keeps the order
(`mul_ofInt_le_mul_ofInt`).
-/

namespace Heartbeat

namespace Binary64

/-- A product with a whole number is rounded from the exact one, that of an infinity from beyond
the end of the range. -/
theorem exists_mul_ofInt_eq {number : Binary64} {x : Int} (h : number.position = some x) {n : Nat}
    (hpos : 0 < n) (hn : n < 2 ^ 53) : ∃ negative units, x = signed negative units ∧
      number * ofInt n = ofRatio negative (units * n) 1 := by
  cases number with
  | nan => cases h
  | infinity negative =>
      obtain rfl := Option.some.inj h
      have hlarge : unitsAtOverflow ≤ unitsAtOverflow * n / 1 := by
        rw [Nat.div_one]
        exact Nat.le_mul_of_pos_right _ hpos
      refine ⟨negative, unitsAtOverflow, rfl, ?_⟩
      rw [infinity_mul_ofInt negative hpos hn, ofRatio_of_overflow negative hlarge]
  | finite negative units fits =>
      obtain rfl := Option.some.inj h
      exact ⟨negative, units, rfl, finite_mul_ofInt negative fits hn⟩

theorem mul_ofInt_le_mul_ofInt {a b : Binary64} (h : a ≤ b) {n : Nat} (hpos : 0 < n)
    (hn : n < 2 ^ 53) : a * ofInt n ≤ b * ofInt n := by
  obtain ⟨x, y, hx, hy, hxy⟩ := le_iff_position.mp h
  obtain ⟨s, units, rfl, ha⟩ := exists_mul_ofInt_eq hx hpos hn
  obtain ⟨t, units', rfl, hb⟩ := exists_mul_ofInt_eq hy hpos hn
  rw [ha, hb]
  refine ofRatio_le_ofRatio ?_ Nat.one_pos
  rw [← signed_mul, ← signed_mul]
  exact Int.mul_le_mul_of_nonneg_right hxy (Int.natCast_nonneg n)

/-- With all 53 bits a number has the one with the next lower bits before it, and no other one
between them. -/
theorem le_of_lt_mul_two_pow {units bits place : Nat} (hfits : Fits units) (hbits : 2 ^ 52 < bits)
    (h : units < bits * 2 ^ place) : units ≤ (bits - 1) * 2 ^ place := by
  rcases Nat.lt_or_ge units (2 ^ (52 + place)) with hsmall | hlarge
  · calc units ≤ 2 ^ (52 + place) := Nat.le_of_lt hsmall
      _ = 2 ^ 52 * 2 ^ place := Nat.pow_add 2 52 place
      _ ≤ (bits - 1) * 2 ^ place := Nat.mul_le_mul_right _ (by omega)
  · have hdvd := two_pow_dvd_of_le hfits hlarge
    rw [Nat.add_sub_cancel_left] at hdvd
    obtain ⟨count, rfl⟩ := hdvd
    rw [Nat.mul_comm] at h ⊢
    have hcount := Nat.lt_of_mul_lt_mul_right h
    exact Nat.mul_le_mul_right _ (by omega)

/-- A number below a positive one with all 53 bits does not reach beyond the number before it. -/
theorem le_before_of_not_le {number : Binary64} {bits place : Nat} (hnumber : number ≠ nan)
    (hbits : 2 ^ 52 < bits) {hfits : Fits (bits * 2 ^ place)}
    (hbefore : Fits ((bits - 1) * 2 ^ place))
    (h : ¬ finite false (bits * 2 ^ place) hfits ≤ number) :
    number ≤ finite false ((bits - 1) * 2 ^ place) hbefore := by
  have hlt : ∀ x, number.position = some x → x < (bits * 2 ^ place : Nat) := by
    intro x hx
    rw [le_iff_position] at h
    by_contra hge
    exact h ⟨_, x, rfl, hx, Int.not_lt.mp hge⟩
  have hpos : 0 ≤ signed false ((bits - 1) * 2 ^ place) := Int.natCast_nonneg _
  rw [le_iff_position]
  cases number with
  | nan => exact absurd rfl hnumber
  | infinity negative =>
      have hlt := hlt _ rfl
      refine ⟨_, _, rfl, rfl, ?_⟩
      cases negative with
      | false =>
          have hoverflow := Int.ofNat_lt.mp hlt
          exact absurd hoverflow (Nat.not_lt.mpr (Nat.le_of_lt hfits.1))
      | true =>
          show -(unitsAtOverflow : Int) ≤ _
          omega
  | finite negative units fits =>
      have hlt := hlt _ rfl
      refine ⟨_, _, rfl, rfl, ?_⟩
      cases negative with
      | false =>
          have hunits := Int.ofNat_lt.mp hlt
          exact Int.ofNat_le.mpr (le_of_lt_mul_two_pow fits hbits hunits)
      | true =>
          show -(units : Int) ≤ _
          omega

end Binary64

namespace Sender

open Binary64

/-- A wait is refused exactly if its nanoseconds, as they are rounded, need more than 63 bits. -/
theorem waitLimit_le_iff {seconds : Binary64} :
    waitLimit ≤ seconds ↔ ofInt (2 ^ 63 : Nat) ≤ seconds * ofInt (10 ^ 9 : Nat) := by
  have hlimit : waitLimit = finite false (4835703278458517 * 2 ^ 1055) (by decide +kernel) := by
    decide +kernel
  constructor
  · intro h
    have htoo : ofInt (2 ^ 63 : Nat) ≤ waitLimit * ofInt (10 ^ 9 : Nat) := by decide +kernel
    exact Binary64.le_trans htoo (mul_ofInt_le_mul_ofInt h (by decide) (by decide))
  · intro h
    by_contra hshort
    by_cases hnumber : seconds = nan
    · rw [hnumber] at h
      obtain ⟨_, _, _, hnone, -⟩ := le_iff_position.mp h
      cases hnone
    · rw [hlimit] at hshort
      have hbefore := le_before_of_not_le hnumber (by decide) (by decide +kernel) hshort
      have hle := mul_ofInt_le_mul_ofInt hbefore (by decide : 0 < 10 ^ 9) (by decide)
      have hfew : finite false ((4835703278458517 - 1) * 2 ^ 1055) (by decide +kernel) *
          ofInt (10 ^ 9 : Nat) < ofInt (2 ^ 63 : Nat) := by decide +kernel
      exact not_lt_of_le (Binary64.le_trans h hle) hfew

end Sender

end Heartbeat
