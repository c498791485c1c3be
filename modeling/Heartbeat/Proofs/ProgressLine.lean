import Std.Data.String.ToNat
import Heartbeat.Progress
import Heartbeat.Proofs.NearestNumber

/-!
# Progress lines in whole percent

A whole number below `2 ^ 53` has few enough significant bits to be a binary64 number, so nothing
is lost when a percentage passes through one, and its two decimal places are zeros. The line of a
position within its run therefore shows a whole percentage below a hundred, and is never the line
of a complete run.
-/

namespace Heartbeat

namespace Binary64

theorem whole_lt_unitsAtOverflow {n : Nat} (h : n < 2 ^ 53) :
    n * unitsInOne < unitsAtOverflow := by
  unfold unitsInOne
  exact mul_two_pow_lt_unitsAtOverflow (s := 1074) h (by omega)

theorem whole_fits {n : Nat} (h : n < 2 ^ 53) : Fits (n * unitsInOne) := by
  have hlt := whole_lt_unitsAtOverflow h
  unfold unitsInOne at hlt ⊢
  exact fits_mul_two_pow (s := 1074) (by omega) hlt

/-- A whole number below `2 ^ 53` is a binary64 number. -/
theorem ofInt_whole {n : Nat} (h : n < 2 ^ 53) :
    ofInt n = finite false (n * unitsInOne) (whole_fits h) := by
  have hunits := roundUnits_one_of_fits (whole_fits h)
  have hlt := whole_lt_unitsAtOverflow h
  have hsign : decide ((n : Int) < 0) = false := by simp
  unfold ofInt ofRatio
  rw [Int.natAbs_natCast, dif_pos (by rw [hunits]; exact hlt)]
  simp only [hsign, hunits]

/-- A whole number is shown with zeros after the point. -/
theorem fixed_whole {n : Nat} (h : n < 2 ^ 53) (places : Nat) :
    (ofInt n).fixed places =
      .ofList (Nat.toDigits 10 n ++ '.' :: paddedDigits places 0) := by
  have hscaled : scaled places (n * unitsInOne) = n * 10 ^ places := by
    rw [scaled, Nat.mul_right_comm, roundHalfEven_mul_right unitsInOne_pos]
  have hpos : 0 < 10 ^ places := Nat.pow_pos (by omega)
  rw [ofInt_whole h, fixed, hscaled, pointed, Nat.mul_div_cancel n hpos, Nat.mul_mod_left]
  rfl

end Binary64

namespace Progress

theorem format_whole {n : Nat} (h : n < 2 ^ 53) :
    format (.ofInt n) = toString n ++ ".00 %" := by
  rw [format, Binary64.fixed_whole h, String.ofList_append, String.append_assoc,
    ← Nat.repr_eq_ofList_toDigits]
  rfl

/-- What lies before a position of a run is less than the run. -/
theorem percent_lt {index count : Nat} (h : index < count) : 100 * index / count < 100 := by
  rw [Nat.div_lt_iff_lt_mul (by omega)]
  omega

theorem percent?_eq {index count : Nat} (h : index < count) :
    percent? index count = some (.ofInt (100 * index / count : Nat)) := by
  have hlt := percent_lt h
  have hquotient : Int.fdiv ((index : Int) * 100) count = ((100 * index / count : Nat) : Int) := by
    rw [Nat.mul_comm]
    exact (Int.ofNat_fdiv (index * 100) count).symm
  rw [percent?, if_neg (by omega), hquotient, Binary64.ofInt_whole (by omega)]

theorem line_eq {index count : Nat} (h : index < count) :
    line index count = toString (100 * index / count) ++ ".00 %" := by
  have hlt := percent_lt h
  rw [line, percent?_eq h, Option.getD_some, format_whole (by omega)]

theorem line_ne_completeLine {index count : Nat} (h : index < count) :
    line index count ≠ completeLine := by
  have hlt := percent_lt h
  rw [line_eq h, show completeLine = toString 100 ++ ".00 %" by decide]
  intro heq
  have := Nat.repr_injective ((String.append_left_inj _).mp heq)
  omega

end Progress

end Heartbeat
