import Mathlib.Algebra.BigOperators.Group.Multiset.Basic
import Mathlib.Algebra.Order.Group.Nat
import Heartbeat.Proofs.Magnitudes
import Heartbeat.Watchdog.Statistics

/-!
# The order of a sum

The terms of a sum are added from left to right, or in eight running sums, or in halves, depending
on how many they are. Whichever it is, each of them is added once (`adds_sum`), and what holds of a
sum for that reason needs no more than an induction on `Adds`: whole numbers are added up exactly
(`Adds.isWhole`), and a sum of terms that are not negative is not less than any of them (`Adds.le`).
-/

namespace Heartbeat.Watchdog

open Binary64

/-- A sum in which each of the terms is added once, in some order and with some brackets. Zeros may
be added as well. -/
inductive Adds : Multiset Binary64 → Binary64 → Prop where
  | zero (negative : Bool) : Adds 0 (Binary64.zero negative)
  | term (number : Binary64) : Adds {number} number
  | add {left right : Multiset Binary64} {a b : Binary64} (hleft : Adds left a)
      (hright : Adds right b) : Adds (left + right) (a + b)

/-- The terms are shared out among running sums. -/
inductive Shares : Multiset Binary64 → List Binary64 → Prop where
  | nil : Shares 0 []
  | cons {part rest : Multiset Binary64} {first : Binary64} {sums : List Binary64}
      (hfirst : Adds part first) (hrest : Shares rest sums) : Shares (part + rest) (first :: sums)

/-! ## Every term is added once -/

theorem coe_cons (term : Binary64) (terms : List Binary64) :
    ((term :: terms : List Binary64) : Multiset Binary64) = {term} + terms := by
  rw [← Multiset.cons_coe, ← Multiset.singleton_add]

theorem coe_take_add_coe_drop (count : Nat) (terms : List Binary64) :
    (terms.take count : Multiset Binary64) + terms.drop count = terms := by
  rw [Multiset.coe_add, List.take_append_drop]

theorem adds_foldl {earlier : Multiset Binary64} {start : Binary64} (h : Adds earlier start)
    (terms : List Binary64) : Adds (earlier + terms) (terms.foldl (· + ·) start) := by
  induction terms generalizing earlier start with
  | nil => simpa using h
  | cons term terms ih =>
      rw [coe_cons, ← add_assoc]
      exact ih (h.add (.term term))

theorem shares_of_terms (terms : List Binary64) : Shares terms terms := by
  induction terms with
  | nil => exact .nil
  | cons term terms ih =>
      rw [coe_cons]
      exact .cons (.term term) ih

/-- A round gives one more term to each of the running sums. -/
theorem Shares.round {earlier : Multiset Binary64} {sums : List Binary64} (h : Shares earlier sums)
    {terms : List Binary64} (hlength : terms.length = sums.length) :
    Shares (earlier + terms) (List.zipWith (· + ·) sums terms) := by
  induction h generalizing terms with
  | nil =>
      rw [List.eq_nil_of_length_eq_zero hlength]
      exact .nil
  | cons hfirst hrest ih =>
      cases terms with
      | nil => cases hlength
      | cons term terms =>
          rw [coe_cons, add_add_add_comm]
          exact .cons (hfirst.add (.term term)) (ih (Nat.succ.inj hlength))

theorem Shares.addInPairs {terms : Multiset Binary64} {sums : List Binary64}
    (h : Shares terms sums) : Shares terms (addInPairs sums) := by
  fun_induction Watchdog.addInPairs sums generalizing terms with
  | case1 first second rest ih =>
      cases h with
      | cons hfirst hrest =>
          cases hrest with
          | cons hsecond hrest =>
              rw [← add_assoc]
              exact .cons (hfirst.add hsecond) (ih hrest)
  | case2 => exact h

theorem length_addInPairs (sums : List Binary64) :
    (addInPairs sums).length = (sums.length + 1) / 2 := by
  fun_induction Watchdog.addInPairs sums with
  | case1 first second rest ih =>
      simp only [List.length_cons]
      omega
  | case2 rest hshort =>
      cases rest with
      | nil => rfl
      | cons first rest =>
          cases rest with
          | nil => simp
          | cons second rest => exact absurd rfl (hshort first second rest)

theorem Shares.adds {terms : Multiset Binary64} {sums : List Binary64} (h : Shares terms sums)
    (hlength : sums.length = 1) (other : Binary64) : Adds terms (sums.headD other) := by
  cases h with
  | nil => cases hlength
  | cons hfirst hrest =>
      cases hrest with
      | nil => simpa using hfirst
      | cons => cases hlength

theorem adds_addInRounds {earlier : Multiset Binary64} {sums : List Binary64}
    (h : Shares earlier sums) (hlength : sums.length = 8) (terms : List Binary64) :
    Adds (earlier + terms) (addInRounds sums terms) := by
  fun_induction addInRounds sums terms generalizing earlier with
  | case1 sums terms hshort =>
      have hone : (addInPairs (addInPairs (addInPairs sums))).length = 1 := by
        simp only [length_addInPairs, hlength]
      exact adds_foldl (h.addInPairs.addInPairs.addInPairs.adds hone 0) terms
  | case2 sums terms hlong ih =>
      have hround : (terms.take 8).length = sums.length := by
        rw [List.length_take]
        omega
      rw [← coe_take_add_coe_drop 8 terms, ← add_assoc]
      apply ih (h.round hround)
      rw [List.length_zipWith]
      omega

theorem adds_sumInHalves (terms : List Binary64) : Adds terms (sumInHalves terms) := by
  fun_induction sumInHalves terms with
  | case1 terms hshort =>
      have hstart : (-0 : Binary64) = Binary64.zero true := by decide +kernel
      have hadds := adds_foldl (.zero true) terms
      rwa [zero_add, ← hstart] at hadds
  | case2 terms hlong hmedium =>
      rw [← coe_take_add_coe_drop 8 terms]
      apply adds_addInRounds (shares_of_terms _)
      rw [List.length_take]
      omega
  | case3 terms hlong hlarge half ihleft ihright =>
      rw [← coe_take_add_coe_drop half terms]
      exact ihleft.add ihright

/-- In a sum each term is added once. -/
theorem adds_sum (terms : List Binary64) : Adds terms (sum terms) := by
  have hzero : (0 : Binary64) = Binary64.zero false := by decide +kernel
  have hadds := (Adds.zero false).add (adds_sumInHalves terms)
  rwa [zero_add, ← hzero] at hadds

/-! ## What holds of such a sum -/

/-- Whole numbers are added up exactly if their sum is small enough. -/
theorem Adds.isWhole {terms : Multiset Binary64} {total : Binary64} (h : Adds terms total)
    {number : Binary64 → Nat} (hwhole : ∀ term ∈ terms, IsWhole term (number term))
    (hbound : (terms.map number).sum < 2 ^ 53) : IsWhole total ((terms.map number).sum : Nat) := by
  induction h with
  | zero negative =>
      rw [Multiset.map_zero, Multiset.sum_zero]
      exact isWhole_zero negative
  | term term =>
      rw [Multiset.map_singleton, Multiset.sum_singleton]
      exact hwhole term (Multiset.mem_singleton_self term)
  | @add left right a b hleft hright ihleft ihright =>
      rw [Multiset.map_add, Multiset.sum_add] at hbound ⊢
      have ha := ihleft (fun term hterm => hwhole term (Multiset.mem_add.mpr (.inl hterm)))
        (by omega)
      have hb := ihright (fun term hterm => hwhole term (Multiset.mem_add.mpr (.inr hterm)))
        (by omega)
      rw [Int.natCast_add]
      exact ha.add hb (by omega) (by omega) (by omega)

/-- A sum of terms that are not negative is not less than any of them. -/
theorem Adds.le {terms : Multiset Binary64} {total : Binary64} (h : Adds terms total)
    (hpos : ∀ term ∈ terms, 0 ≤ term) : 0 ≤ total ∧ ∀ term ∈ terms, term ≤ total := by
  induction h with
  | zero negative =>
      refine ⟨?_, fun term hterm => absurd hterm (Multiset.notMem_zero term)⟩
      cases negative <;> decide +kernel
  | term term =>
      have hterm := hpos term (Multiset.mem_singleton_self term)
      obtain ⟨place, hplace, -⟩ := zero_le_iff.mp hterm
      refine ⟨hterm, ?_⟩
      intro other hother
      rw [Multiset.mem_singleton.mp hother]
      exact le_iff_position.mpr ⟨place, place, hplace, hplace, Int.le_refl place⟩
  | @add left right a b hleft hright ihleft ihright =>
      obtain ⟨ha, hlea⟩ := ihleft fun term hterm => hpos term (Multiset.mem_add.mpr (.inl hterm))
      obtain ⟨hb, hleb⟩ := ihright fun term hterm => hpos term (Multiset.mem_add.mpr (.inr hterm))
      have hsum := le_add_right ha hb
      have hsum' := le_add_right hb ha
      rw [Binary64.add_comm] at hsum'
      refine ⟨Binary64.le_trans ha hsum, ?_⟩
      intro term hterm
      rcases Multiset.mem_add.mp hterm with hmem | hmem
      · exact Binary64.le_trans (hlea term hmem) hsum
      · exact Binary64.le_trans (hleb term hmem) hsum'

end Heartbeat.Watchdog
