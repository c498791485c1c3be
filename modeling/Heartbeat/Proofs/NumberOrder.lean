import Heartbeat.Binary64.Basic

/-!
# The order of binary64 numbers

Numbers are compared by where they stand (`le_iff_position`, `lt_iff_position`). What is not a
number stands nowhere, and that is the only thing that keeps two numbers from being comparable
(`not_le_and_not_lt_iff`). A function of magnitudes that keeps their order and fixes zero keeps the
order of where the numbers stand (`signed_le_signed`).
-/

namespace Heartbeat.Binary64

/-- What keeps the order of magnitudes, and zero, keeps the order of both signs. -/
theorem signed_le_signed {f : Nat → Nat} (hzero : f 0 = 0) (hmono : ∀ {m n}, m ≤ n → f m ≤ f n)
    {s t : Bool} {m n : Nat} (h : signed s m ≤ signed t n) : signed s (f m) ≤ signed t (f n) := by
  cases s with
  | false =>
      cases t with
      | false =>
          have hle : m ≤ n := Int.ofNat_le.mp h
          exact Int.ofNat_le.mpr (hmono hle)
      | true =>
          change (m : Int) ≤ -(n : Int) at h
          obtain ⟨rfl, rfl⟩ : m = 0 ∧ n = 0 := by omega
          rw [hzero]
          exact Int.le_refl 0
  | true =>
      cases t with
      | false =>
          show -(f m : Int) ≤ f n
          omega
      | true =>
          change -(m : Int) ≤ -(n : Int) at h
          have hle := hmono (by omega : n ≤ m)
          show -(f m : Int) ≤ -(f n : Int)
          omega

theorem eq_nan_of_position {number : Binary64} (h : number.position = none) : number = nan := by
  cases number with
  | nan => rfl
  | infinity => cases h
  | finite => cases h

theorem position_eq_none_iff {number : Binary64} : number.position = none ↔ number = nan := by
  constructor
  · exact eq_nan_of_position
  · rintro rfl
    rfl

theorem le_iff_position {a b : Binary64} :
    a ≤ b ↔ ∃ x y, a.position = some x ∧ b.position = some y ∧ x ≤ y := by
  show a.le b = true ↔ _
  rw [le]
  cases a.position with
  | none => simp
  | some x =>
      cases b.position with
      | none => simp
      | some y => simp

theorem lt_iff_position {a b : Binary64} :
    a < b ↔ ∃ x y, a.position = some x ∧ b.position = some y ∧ x < y := by
  show a.lt b = true ↔ _
  rw [lt]
  cases a.position with
  | none => simp
  | some x =>
      cases b.position with
      | none => simp
      | some y => simp

theorem not_lt_nan (a : Binary64) : ¬ a < nan := by
  rw [lt_iff_position]
  rintro ⟨_, _, -, hnan, -⟩
  cases hnan

theorem not_lt_of_le {a b : Binary64} (h : b ≤ a) : ¬ a < b := by
  obtain ⟨y, x, hb, ha, hle⟩ := le_iff_position.mp h
  rw [lt_iff_position]
  rintro ⟨x', y', ha', hb', hlt⟩
  cases ha.symm.trans ha'
  cases hb.symm.trans hb'
  omega

protected theorem le_trans {a b c : Binary64} (hab : a ≤ b) (hbc : b ≤ c) : a ≤ c := by
  obtain ⟨x, y, ha, hb, hxy⟩ := le_iff_position.mp hab
  obtain ⟨y', z, hb', hc, hyz⟩ := le_iff_position.mp hbc
  cases hb.symm.trans hb'
  exact le_iff_position.mpr ⟨x, z, ha, hc, by omega⟩

/-- Two numbers are comparable unless one of them is none. -/
theorem not_le_and_not_lt_iff {a b : Binary64} : ¬ a ≤ b ∧ ¬ b < a ↔ a = nan ∨ b = nan := by
  rw [le_iff_position, lt_iff_position, ← position_eq_none_iff, ← position_eq_none_iff]
  cases a.position with
  | none => simp
  | some x =>
      cases b.position with
      | none => simp
      | some y => simp

end Heartbeat.Binary64
