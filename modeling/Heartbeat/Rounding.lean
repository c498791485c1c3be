/-!
# Quotients rounded once

Every number of this library is computed exactly and rounded at the very end, always by the
same rule: the nearest whole number, and of two equally near ones the even one. The rule is
stated here for a quotient of two natural numbers, next to the whole square root that the one
irrational operation needs.
-/

namespace Heartbeat

/-- The whole number nearest to `num / den`; halfway between two, the even one. -/
def roundHalfEven (num den : Nat) : Nat :=
  let quotient := num / den
  let rest := num % den
  if 2 * rest < den ∨ (2 * rest = den ∧ quotient % 2 = 0) then quotient else quotient + 1

theorem div_le_roundHalfEven (num den : Nat) : num / den ≤ roundHalfEven num den := by
  grind [roundHalfEven]

theorem roundHalfEven_le_div_succ (num den : Nat) :
    roundHalfEven num den ≤ num / den + 1 := by
  grind [roundHalfEven]

theorem roundHalfEven_mul_right {den : Nat} (h : 0 < den) (n : Nat) :
    roundHalfEven (n * den) den = n := by
  simp [roundHalfEven, Nat.mul_div_cancel n h, h]

/-- The largest whole number whose square is at most `n`, found two binary digits at a time. -/
def wholeSqrt (n : Nat) : Nat :=
  if h : n = 0 then 0
  else
    let root := 2 * wholeSqrt (n / 4)
    if (root + 1) * (root + 1) ≤ n then root + 1 else root
termination_by n
decreasing_by omega

theorem wholeSqrt_spec (n : Nat) :
    wholeSqrt n * wholeSqrt n ≤ n ∧ n < (wholeSqrt n + 1) * (wholeSqrt n + 1) := by
  fun_induction wholeSqrt n with
  | case1 => decide
  | case2 n h root hle ih =>
      refine ⟨hle, ?_⟩
      have hupper : n < 4 * ((wholeSqrt (n / 4) + 1) * (wholeSqrt (n / 4) + 1)) := by omega
      calc n < 4 * ((wholeSqrt (n / 4) + 1) * (wholeSqrt (n / 4) + 1)) := hupper
        _ = (root + 1 + 1) * (root + 1 + 1) := by simp only [root]; grind
  | case3 n h root hgt ih =>
      refine ⟨?_, by omega⟩
      have hlower : 4 * (wholeSqrt (n / 4) * wholeSqrt (n / 4)) ≤ n := by omega
      calc root * root = 4 * (wholeSqrt (n / 4) * wholeSqrt (n / 4)) := by
            simp only [root]; grind
        _ ≤ n := hlower

end Heartbeat
