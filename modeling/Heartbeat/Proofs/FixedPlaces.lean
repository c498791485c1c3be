import Heartbeat.Progress
import Heartbeat.Proofs.NearestQuotient
import Heartbeat.Proofs.NumberOrder
import Heartbeat.Proofs.NumberText

/-!
# Numbers with fixed places

A text with a fixed count of decimal places shows a sign and how often it has one of the last place
(`Shows`), and it shows only one of each (`Shows.unique`). The text of a binary64 number shows the
sign bit of the number, and of all multiples of the last place the one that is nearest to the exact
value; of two that are equally near it is the one with an even last digit (`nearest_scaled`).

Rounding keeps the order of magnitudes, and zero is shown as the same number with either sign, so a
number is not shown as more than a larger one.
-/

namespace Heartbeat

namespace Binary64

/-- Does a text with so many decimal places show a number of this sign, so many times one of its
last place? A whole number stands before the point, and behind it a digit for each place. -/
def Shows (places : Nat) (text : String) (negative : Bool) (count : Nat) : Prop :=
  ∃ (whole : Nat) (decimals : List Char),
    text = (if negative then "-" else "") ++ toString whole ++ "." ++ .ofList decimals ∧
      decimals.length = places ∧ (∀ c ∈ decimals, c.isDigit = true) ∧
      count = whole * 10 ^ places + Nat.ofDigitChars 10 decimals 0

/-- The number that is shown as so many times one of the last place. -/
def amount (places : Nat) (negative : Bool) (count : Nat) : ℚ :=
  (signed negative count : ℚ) / (10 ^ places : Nat)

/-- Is no multiple of the last place nearer to the exact value than this one, and the last digit
even if another one is as near? -/
def IsNearestAmount (places : Nat) (negative : Bool) (count : Nat) (exact : ℚ) : Prop :=
  ∀ other : Int,
    |amount places negative count - exact| < |(other : ℚ) / (10 ^ places : Nat) - exact| ∨
      other = signed negative count ∨
      |amount places negative count - exact| = |(other : ℚ) / (10 ^ places : Nat) - exact| ∧
        count % 2 = 0

/-- Is the first of the 64 bits set? -/
def SignBit (number : Binary64) : Prop := 2 ^ 63 ≤ number.toBits.toNat

/-! ## Reading what is shown -/

theorem toList_shown (negative : Bool) (whole : Nat) (decimals : List Char) :
    ((if negative then "-" else "") ++ toString whole ++ "." ++ .ofList decimals).toList =
      signMark negative ++ (Nat.toDigits 10 whole ++ '.' :: decimals) := by
  simp only [String.toList_append, String.toList_ofList, Nat.toString_eq_ofList_toDigits,
    List.append_assoc]
  cases negative <;> rfl

theorem splitSign_shown (negative : Bool) (whole : Nat) (rest : List Char) :
    Text.splitSign (signMark negative ++ (Nat.toDigits 10 whole ++ rest)) =
      (negative, Nat.toDigits 10 whole ++ rest) := by
  cases negative with
  | true => rfl
  | false =>
      cases hdigits : Nat.toDigits 10 whole with
      | nil => exact absurd hdigits Nat.toDigits_ne_nil
      | cons c digits =>
          have hc : c.isDigit = true :=
            Nat.isDigit_of_mem_toDigits (by decide) (by decide) (hdigits ▸ List.mem_cons_self)
          exact Text.splitSign_cons hc (digits ++ rest)

/-- The sign and the number are found again by reading the text. -/
theorem Shows.read {places count : Nat} {text : String} {negative : Bool}
    (h : Shows places text negative count) :
    negative = (Text.splitSign text.toList).1 ∧
      count = Nat.ofDigitChars 10 ((Text.splitSign text.toList).2.takeWhile Char.isDigit) 0 *
          10 ^ places +
        Nat.ofDigitChars 10 (((Text.splitSign text.toList).2.dropWhile Char.isDigit).drop 1) 0 := by
  obtain ⟨whole, decimals, rfl, -, -, rfl⟩ := h
  have hdigits : ∀ c ∈ Nat.toDigits 10 whole, c.isDigit = true :=
    fun c hmem => Nat.isDigit_of_mem_toDigits (by decide) (by decide) hmem
  have hpoint : ∀ c, ('.' :: decimals).head? = some c → c.isDigit = false := by
    intro c hc
    cases hc
    rfl
  obtain ⟨htake, hdrop⟩ := Text.takeWhile_isDigit ('.' :: decimals) hdigits hpoint
  rw [toList_shown, splitSign_shown]
  simp only [htake, hdrop, Nat.ofDigitChars_ten_toDigits, List.drop_succ_cons, List.drop_zero,
    and_self]

theorem Shows.unique {places count count' : Nat} {text : String} {negative negative' : Bool}
    (h : Shows places text negative count) (h' : Shows places text negative' count') :
    negative = negative' ∧ count = count' :=
  ⟨h.read.1.trans h'.read.1.symm, h.read.2.trans h'.read.2.symm⟩

/-! ## What is shown of a number -/

theorem length_paddedDigits {width n : Nat} (hwidth : 0 < width) (h : n < 10 ^ width) :
    (paddedDigits width n).length = width := by
  have hlength := (Nat.length_toDigits_le_iff (by decide : 1 < 10) hwidth).mpr h
  rw [paddedDigits, List.length_append, List.length_replicate]
  omega

theorem shows_fixed {places : Nat} (hplaces : 0 < places) (negative : Bool) {units : Nat}
    (fits : Fits units) :
    Shows places ((finite negative units fits).fixed places) negative (scaled places units) := by
  have hpower : 0 < 10 ^ places := Nat.pow_pos (by decide)
  generalize hcount : scaled places units = count
  refine ⟨count / 10 ^ places, paddedDigits places (count % 10 ^ places), ?_,
    length_paddedDigits hplaces (Nat.mod_lt count hpower),
    fun c hmem => Text.isDigit_of_mem_paddedDigits hmem, ?_⟩
  · rw [fixed, hcount, pointed, ← toList_shown, String.ofList_toList]
  · rw [Text.ofDigitChars_paddedDigits, Nat.mul_comm, Nat.div_add_mod]

theorem log2_lt_of_fits {units : Nat} (fits : Fits units) (hsome : units ≠ 0) :
    units.log2 < 2098 := by
  have hbelow : ∀ exponent, units < 2 ^ exponent → units.log2 < exponent :=
    fun _ h => (Nat.log2_lt hsome).mpr h
  exact hbelow 2098 fits.1

/-- The bits below the first one do not reach it. -/
theorem signBit_finite (negative : Bool) {units : Nat} (fits : Fits units) :
    (finite negative units fits).SignBit ↔ negative = true := by
  have hmagnitude : (if units < 2 ^ 52 then units
      else units / 2 ^ (units.log2 - 52) + (units.log2 - 52) * 2 ^ 52) < 2 ^ 63 := by
    split
    · omega
    · next hlarge =>
      have hlog := log2_lt_of_fits fits (by omega)
      have hquotient : units / 2 ^ (units.log2 - 52) < 2 ^ 53 := significand_lt units
      omega
  rw [SignBit, toBits]
  simp only [UInt64.toNat_ofNat']
  generalize (if units < 2 ^ 52 then units
    else units / 2 ^ (units.log2 - 52) + (units.log2 - 52) * 2 ^ 52) = magnitude at hmagnitude
  cases negative with
  | false =>
      refine iff_of_false ?_ Bool.false_ne_true
      simp only [Bool.false_eq_true, if_false]
      omega
  | true =>
      refine iff_of_true ?_ rfl
      simp only [if_true]
      omega

/-! ## The nearest multiple of the last place -/

theorem abs_sub_of_places (places : Nat) (a position : Int) :
    |(a : ℚ) / (10 ^ places : Nat) - position / unitsInOne| =
      ((a * unitsInOne - position * (10 ^ places : Nat)).natAbs : ℚ) /
        (10 ^ places * unitsInOne : Nat) := by
  have hplace : 0 < 10 ^ places := Nat.pow_pos (by decide)
  rw [← cast_mul_div_mul a (10 ^ places) unitsInOne_pos,
    ← cast_mul_div_mul position unitsInOne hplace, Nat.mul_comm unitsInOne, abs_div_sub_div]

theorem nearest_scaled (places : Nat) (negative : Bool) (units : Nat) :
    IsNearestAmount places negative (scaled places units)
      ((signed negative units : ℚ) / unitsInOne) := by
  intro other
  have hplace : 0 < 10 ^ places := Nat.pow_pos (by decide)
  have hpos : (0 : ℚ) < (10 ^ places * unitsInOne : Nat) :=
    Nat.cast_pos.mpr (Nat.mul_pos hplace unitsInOne_pos)
  rw [amount, abs_sub_of_places, abs_sub_of_places, div_lt_div_iff_of_pos_right hpos,
    div_left_inj' (ne_of_gt hpos), Nat.cast_lt, Nat.cast_inj, signed_mul negative units,
    ← signed_natAbs other]
  refine natAbs_nearest unitsInOne_pos ?_
    (fun count (_ : True) => distance_roundHalfEven_le unitsInOne_pos _ count) negative _ ?_
  · trivial
  · trivial

/-! ## Order -/

theorem amount_le_amount {places : Nat} {s t : Bool} {m n : Nat}
    (h : signed s m ≤ signed t n) : amount places s m ≤ amount places t n :=
  div_le_div_of_nonneg_right (Int.cast_le.mpr h) (Nat.cast_nonneg _)

theorem scaled_zero (places : Nat) : scaled places 0 = 0 := by
  rw [scaled, Nat.zero_mul]
  exact roundHalfEven_eq_zero unitsInOne_pos

theorem scaled_le_scaled (places : Nat) {units units' : Nat} (h : units ≤ units') :
    scaled places units ≤ scaled places units' :=
  roundHalfEven_le_roundHalfEven (Nat.mul_le_mul_right _ h) unitsInOne

end Binary64

namespace Progress

open Binary64

/-- Is this a percentage of two decimal places, of this sign and with so many hundredths? -/
def IsPercentage (text : String) (negative : Bool) (hundredths : Nat) : Prop :=
  ∃ shown, text = shown ++ " %" ∧ Shows 2 shown negative hundredths

theorem IsPercentage.unique {text : String} {negative negative' : Bool}
    {hundredths hundredths' : Nat} (h : IsPercentage text negative hundredths)
    (h' : IsPercentage text negative' hundredths') :
    negative = negative' ∧ hundredths = hundredths' := by
  obtain ⟨shown, rfl, hshows⟩ := h
  obtain ⟨shown', htext, hshows'⟩ := h'
  rw [(String.append_left_inj _).mp htext] at hshows
  exact hshows.unique hshows'

theorem isPercentage_format (negative : Bool) {units : Nat} (fits : Fits units) :
    IsPercentage (format (finite negative units fits)) negative (scaled 2 units) :=
  ⟨_, rfl, shows_fixed (by decide) negative fits⟩

/-- The text of a finite percentage shows one number with two decimal places, with a minus exactly
if the sign bit is set. It is the multiple of a hundredth that is nearest to the exact value, of two
that are equally near the one with the even last digit. So of two percentages the smaller one is not
shown as a larger number. -/
theorem format_nearest {percent : Binary64} {exact : ℚ} (h : percent.value? = some exact) :
    ∃ negative hundredths, IsPercentage (format percent) negative hundredths ∧
      (∀ negative' hundredths', IsPercentage (format percent) negative' hundredths' →
        negative' = negative ∧ hundredths' = hundredths) ∧
      (negative = true ↔ percent.SignBit) ∧ IsNearestAmount 2 negative hundredths exact ∧
      ∀ larger largerExact, larger.value? = some largerExact → percent ≤ larger →
        ∀ negative' hundredths', IsPercentage (format larger) negative' hundredths' →
          amount 2 negative hundredths ≤ amount 2 negative' hundredths' := by
  cases percent with
  | nan => cases h
  | infinity => cases h
  | finite negative units fits =>
      obtain rfl := Option.some.inj h
      refine ⟨negative, scaled 2 units, isPercentage_format negative fits, ?_,
        (signBit_finite negative fits).symm, nearest_scaled 2 negative units, ?_⟩
      · intro negative' hundredths' hother
        exact hother.unique (isPercentage_format negative fits)
      · intro larger largerExact hlarger hle negative' hundredths' hother
        cases larger with
        | nan => cases hlarger
        | infinity => cases hlarger
        | finite sign units' fits' =>
            obtain ⟨x, y, hx, hy, hxy⟩ := le_iff_position.mp hle
            obtain rfl := Option.some.inj hx
            obtain rfl := Option.some.inj hy
            obtain ⟨hsign, hcount⟩ := hother.unique (isPercentage_format sign fits')
            rw [hsign, hcount]
            exact amount_le_amount (signed_le_signed (scaled_zero 2) (scaled_le_scaled 2) hxy)

/-- An eighth below zero, which lies halfway between two hundredths. -/
def negativeEighth : Binary64 := finite true (2 ^ 1071) (by decide +kernel)

theorem value?_of_eighth {units : Nat} (fits : Fits units) (h : units * 8 = unitsInOne) :
    (finite true units fits).value? = some (-1 / 8) := by
  rw [value?_finite_iff, ← h]
  show _ = ((-(units : Int) : Int) : ℚ)
  push_cast
  ring

theorem format_nearest_of_tie :
    negativeEighth.value? = some (-1 / 8) ∧ format negativeEighth = "-0.12 %" ∧
      ∃ negative hundredths, IsPercentage "-0.12 %" negative hundredths ∧
        (negative = true ↔ negativeEighth.SignBit) ∧
        IsNearestAmount 2 negative hundredths (-1 / 8) := by
  have hvalue : negativeEighth.value? = some (-1 / 8) := value?_of_eighth _ (by decide +kernel)
  have hformat : format negativeEighth = "-0.12 %" := by decide +kernel
  obtain ⟨negative, hundredths, hshown, -, hsign, hnearest, -⟩ := format_nearest hvalue
  rw [hformat] at hshown
  exact ⟨hvalue, hformat, negative, hundredths, hshown, hsign, hnearest⟩

end Progress

end Heartbeat
