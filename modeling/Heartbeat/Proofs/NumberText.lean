import Heartbeat.Binary64.Shortest
import Heartbeat.Text.Numeral
import Heartbeat.Proofs.NearestNumber

/-!
# Numbers read back

What a number is shown as is read as that number. For a whole number this is so up to the longest
numeral that is read (`int?_natToString`), for a binary64 number always (`binary64?_shortest`).

A shortest text is that of a decimal that was found to read as the number, or of its exact value,
which reads as the number because rounding leaves it alone. What remains is that the text of a
decimal is read as that decimal (`Decimal.decimal?_text`). The layout puts the point in one of four
places, and may write zeros before the digits, which count for nothing, or behind them, which come
out of the exponent.
-/

namespace Heartbeat

namespace Text

/-! ## Plain characters -/

/-- Is this a character that a number keeps when it is brought into plain form? -/
def IsPlain (c : Char) : Prop := c.toNat < 128 ∧ isBlank c = false ∧ c ≠ '_'

instance : DecidablePred IsPlain := fun _ => inferInstanceAs (Decidable (_ ∧ _))

theorem mapM_plainChar? {text : List Char} (h : ∀ c ∈ text, IsPlain c) :
    text.mapM plainChar? = some text := by
  induction text with
  | nil => rfl
  | cons c rest ih =>
      have hc : plainChar? c = some c := if_pos (h c List.mem_cons_self).1
      rw [List.mapM_cons, hc, ih fun other hmem => h other (.tail _ hmem)]
      rfl

theorem trimmed_of_not_isBlank {text : List Char} (h : ∀ c ∈ text, isBlank c = false) :
    trimmed text = text := by
  have hkeep : ∀ other : List Char, (∀ c ∈ other, c ∈ text) →
      other.dropWhile isBlank = other := by
    intro other hother
    cases other with
    | nil => rfl
    | cons c rest =>
        exact List.dropWhile_cons_of_neg (by rw [h c (hother c List.mem_cons_self)]; decide)
  rw [trimmed, hkeep text fun c hmem => hmem,
    hkeep text.reverse fun c hmem => List.mem_reverse.mp hmem, List.reverse_reverse]

theorem ungrouped?_of_notMem {text : List Char} (h : '_' ∉ text) (afterDigit : Bool) :
    ungrouped? afterDigit text = some text := by
  induction text generalizing afterDigit with
  | nil => rfl
  | cons c rest ih =>
      obtain ⟨hc, hrest⟩ : '_' ≠ c ∧ '_' ∉ rest := by simpa using h
      rw [ungrouped?, if_neg (Ne.symm hc), ih hrest]
      rfl

theorem plain?_of_isPlain {text : List Char} (h : ∀ c ∈ text, IsPlain c) :
    plain? (.ofList text) = some text := by
  have hblank : ∀ c ∈ text, isBlank c = false := fun c hmem => (h c hmem).2.1
  have hgroup : '_' ∉ text := fun hmem => (h '_' hmem).2.2 rfl
  rw [plain?, String.toList_ofList, mapM_plainChar? h]
  show ungrouped? false (trimmed text) = some text
  rw [trimmed_of_not_isBlank hblank, ungrouped?_of_notMem hgroup]

/-! ## Digits -/

theorem isPlain_of_isDigit {c : Char} (h : c.isDigit = true) : IsPlain c := by
  obtain ⟨hlow, hhigh⟩ : 48 ≤ c.toNat ∧ c.toNat ≤ 57 := Char.isDigit_iff_toNat.mp h
  refine ⟨by omega, ?_, ?_⟩
  · have hspace : c ≠ ' ' := by
      rintro rfl
      cases h
    simp [isBlank, hspace]
    omega
  · rintro rfl
    cases h

theorem toLower_of_isDigit {c : Char} (h : c.isDigit = true) : c.toLower = c := by
  obtain ⟨-, hhigh⟩ : 48 ≤ c.toNat ∧ c.toNat ≤ 57 := Char.isDigit_iff_toNat.mp h
  refine dif_neg ?_
  rintro ⟨hletter, -⟩
  have : 65 ≤ c.toNat := hletter
  omega

theorem digits?_of_isDigit {text : List Char} (hsome : text ≠ [])
    (h : ∀ c ∈ text, c.isDigit = true) : digits? text = some (Nat.ofDigitChars 10 text 0) :=
  if_pos ⟨hsome, List.all_eq_true.mpr h⟩

/-- What begins with a digit has no sign. -/
theorem splitSign_cons {c : Char} (h : c.isDigit = true) (rest : List Char) :
    splitSign (c :: rest) = (false, c :: rest) := by
  rw [splitSign.eq_def]
  split
  · next heq => cases heq; cases h
  · next heq => cases heq; cases h
  · rfl

theorem takeWhile_isDigit {text : List Char} (rest : List Char)
    (h : ∀ c ∈ text, c.isDigit = true)
    (hrest : ∀ c, rest.head? = some c → c.isDigit = false) :
    (text ++ rest).takeWhile Char.isDigit = text ∧
      (text ++ rest).dropWhile Char.isDigit = rest := by
  rw [List.takeWhile_append_of_pos h, List.dropWhile_append_of_pos h]
  cases rest with
  | nil => exact ⟨List.append_nil text, rfl⟩
  | cons c rest =>
      have hc : ¬ c.isDigit = true := by simp [hrest c rfl]
      rw [List.takeWhile_cons_of_neg hc, List.dropWhile_cons_of_neg hc]
      exact ⟨List.append_nil text, rfl⟩

/-! ## Whole numbers -/

/-- A whole number is read back if it is not too long. -/
theorem int?_natToString (n : Nat) :
    int? (toString n) = if (toString n).length ≤ longestNumeral then some (n : Int) else none := by
  have hdigits : ∀ c ∈ Nat.toDigits 10 n, c.isDigit = true :=
    fun c hmem => Nat.isDigit_of_mem_toDigits (by decide) (by decide) hmem
  have hplain : plain? (toString n) = some (Nat.toDigits 10 n) := by
    rw [Nat.toString_eq_ofList_toDigits]
    exact plain?_of_isPlain fun c hmem => isPlain_of_isDigit (hdigits c hmem)
  have hsign : splitSign (Nat.toDigits 10 n) = (false, Nat.toDigits 10 n) := by
    cases hchars : Nat.toDigits 10 n with
    | nil => exact absurd hchars Nat.toDigits_ne_nil
    | cons c rest => exact splitSign_cons (hdigits c (by simp [hchars])) rest
  have hread : digits? (Nat.toDigits 10 n) = some n := by
    rw [digits?_of_isDigit Nat.toDigits_ne_nil hdigits, Nat.ofDigitChars_ten_toDigits]
  have hlength : (toString n).length = (Nat.toDigits 10 n).length := by
    rw [Nat.toString_eq_ofList_toDigits, String.length_ofList]
  rw [int?, hplain, hlength]
  simp only [Option.bind_eq_bind, Option.bind_some, hsign, hread]
  rfl

/-! ## Decimals -/

theorem isDigit_of_mem_zeros {zeros : Nat} {c : Char} (h : c ∈ List.replicate zeros '0') :
    c.isDigit = true := by
  rw [List.eq_of_mem_replicate h]
  rfl

theorem isDigit_of_mem_paddedDigits {width n : Nat} {c : Char}
    (h : c ∈ Binary64.paddedDigits width n) : c.isDigit = true :=
  (List.mem_append.mp h).elim isDigit_of_mem_zeros
    (Nat.isDigit_of_mem_toDigits (by decide) (by decide))

theorem ofDigitChars_paddedDigits (width n : Nat) :
    Nat.ofDigitChars 10 (Binary64.paddedDigits width n) 0 = n := by
  rw [Binary64.paddedDigits, Nat.ofDigitChars_append, Nat.ofDigitChars_replicate_zero, Nat.mul_zero,
    Nat.ofDigitChars_ten_toDigits]

theorem digits?_paddedDigits (width n : Nat) :
    digits? (Binary64.paddedDigits width n) = some n := by
  have hdigits : ∀ c ∈ Binary64.paddedDigits width n, c.isDigit = true :=
    fun c hmem => isDigit_of_mem_paddedDigits hmem
  have hsome : Binary64.paddedDigits width n ≠ [] :=
    List.append_ne_nil_of_right_ne_nil _ Nat.toDigits_ne_nil
  rw [digits?_of_isDigit hsome hdigits, ofDigitChars_paddedDigits]

theorem exponent?_exponentDigits (exponent : Int) :
    exponent? ('e' :: Binary64.exponentDigits exponent) = some exponent := by
  rw [Binary64.exponentDigits]
  split
  · next hneg =>
      show (digits? (Binary64.paddedDigits 2 exponent.natAbs) >>= _) = _
      rw [digits?_paddedDigits]
      show some (-(exponent.natAbs : Int)) = _
      congr 1
      omega
  · next hneg =>
      show (digits? (Binary64.paddedDigits 2 exponent.natAbs) >>= _) = _
      rw [digits?_paddedDigits]
      show some (exponent.natAbs : Int) = _
      congr 1
      omega

variable {whole fraction rest : List Char} {exponent : Int} (negative : Bool)

/-- A decimal with a point. -/
theorem decimal?_point (hwhole : ∀ c ∈ whole, c.isDigit = true)
    (hfraction : ∀ c ∈ fraction, c.isDigit = true) (hsome : whole ++ fraction ≠ [])
    (hrest : ∀ c, rest.head? = some c → c.isDigit = false) (hexp : exponent? rest = some exponent) :
    decimal? negative (whole ++ '.' :: (fraction ++ rest)) =
      some (.ofDecimal negative (Nat.ofDigitChars 10 (whole ++ fraction) 0)
        (exponent - fraction.length)) := by
  obtain ⟨htake, hdrop⟩ := takeWhile_isDigit ('.' :: (fraction ++ rest)) hwhole
    (by rintro c hc; cases hc; rfl)
  obtain ⟨htake', hdrop'⟩ := takeWhile_isDigit rest hfraction hrest
  have hdigits : ∀ c ∈ whole ++ fraction, c.isDigit = true := by
    intro c hmem
    exact (List.mem_append.mp hmem).elim (hwhole c) (hfraction c)
  rw [decimal?]
  simp only [htake, hdrop, htake', hdrop', digits?_of_isDigit hsome hdigits, hexp]
  rfl

/-- A decimal without a point that has an exponent. -/
theorem decimal?_noPoint (hwhole : ∀ c ∈ whole, c.isDigit = true) (hsome : whole ≠ [])
    (hexp : exponent? ('e' :: rest) = some exponent) :
    decimal? negative (whole ++ 'e' :: rest) =
      some (.ofDecimal negative (Nat.ofDigitChars 10 whole 0) exponent) := by
  obtain ⟨htake, hdrop⟩ := takeWhile_isDigit ('e' :: rest) hwhole
    (by rintro c hc; cases hc; rfl)
  rw [decimal?, htake, hdrop]
  show (do
    let digits ← digits? (whole ++ [])
    let exponent ← exponent? ('e' :: rest)
    some (Binary64.ofDecimal negative digits (exponent - ((0 : Nat) : Int)))) = _
  rw [List.append_nil, digits?_of_isDigit hsome hwhole, hexp]
  show some (Binary64.ofDecimal negative _ (exponent - ((0 : Nat) : Int))) = _
  rw [Int.natCast_zero, Int.sub_zero]

end Text

namespace Binary64

open Text

/-! ## The layout of a shortest text -/

variable {significant : List Char}

theorem ofDigitChars_zeros_append (zeros : Nat) (text : List Char) :
    Nat.ofDigitChars 10 (List.replicate zeros '0' ++ text) 0 = Nat.ofDigitChars 10 text 0 := by
  rw [Nat.ofDigitChars_append, Nat.ofDigitChars_replicate_zero, Nat.mul_zero]

/-- One digit, the others behind a point if there are any, and an exponent. -/
theorem decimal?_scientific (negative : Bool) (hdigits : ∀ c ∈ significant, c.isDigit = true)
    (hsome : significant ≠ []) (exponent : Int) :
    decimal? negative (significant.take 1 ++
        (if significant.length ≤ 1 then [] else '.' :: significant.drop 1) ++
        'e' :: exponentDigits exponent) =
      some (.ofDecimal negative (Nat.ofDigitChars 10 significant 0)
        (exponent + 1 - significant.length)) := by
  have hlength : 0 < significant.length := List.length_pos_iff.mpr hsome
  have hexp := exponent?_exponentDigits exponent
  split
  · next hone =>
      have hall : significant.take 1 = significant := List.take_of_length_le hone
      rw [List.append_nil, hall, decimal?_noPoint negative hdigits hsome hexp]
      congr 2
      omega
  · next hmore =>
      have hjoin : significant.take 1 ++ significant.drop 1 = significant :=
        List.take_append_drop 1 significant
      have htake : ∀ c ∈ significant.take 1, c.isDigit = true :=
        fun c hmem => hdigits c (List.mem_of_mem_take hmem)
      have hdrop : ∀ c ∈ significant.drop 1, c.isDigit = true :=
        fun c hmem => hdigits c (List.mem_of_mem_drop hmem)
      have hend : ∀ c, ('e' :: exponentDigits exponent).head? = some c → c.isDigit = false := by
        rintro c hc
        cases hc
        rfl
      rw [List.append_assoc, List.cons_append,
        decimal?_point negative htake hdrop (by rwa [hjoin]) hend hexp, hjoin, List.length_drop]
      congr 2
      omega

/-- A decimal that ends with the digits behind its point. -/
theorem decimal?_pointed (negative : Bool) (whole fraction : List Char)
    (hwhole : ∀ c ∈ whole, c.isDigit = true) (hfraction : ∀ c ∈ fraction, c.isDigit = true)
    (hsome : whole ++ fraction ≠ []) :
    decimal? negative (whole ++ '.' :: fraction) =
      some (.ofDecimal negative (Nat.ofDigitChars 10 (whole ++ fraction) 0)
        (-fraction.length)) := by
  have hend : ∀ c, ([] : List Char).head? = some c → c.isDigit = false := nofun
  have hread := decimal?_point negative hwhole hfraction hsome hend rfl
  rwa [List.append_nil, Int.zero_sub] at hread

/-- Wherever the point is put, the digits with it are read as they are meant. -/
theorem decimal?_placed (negative : Bool) (hdigits : ∀ c ∈ significant, c.isDigit = true)
    (hpos : 0 < Nat.ofDigitChars 10 significant 0) (point : Int) :
    decimal? negative (placed significant point) =
      some (.ofDecimal negative (Nat.ofDigitChars 10 significant 0)
        (point - significant.length)) := by
  have hsome : significant ≠ [] := by
    rintro rfl
    exact absurd hpos (by decide)
  rw [placed]
  split
  · rw [decimal?_scientific negative hdigits hsome, Int.sub_add_cancel]
  split
  · next hbefore =>
      have hfraction : ∀ c ∈ List.replicate (-point).toNat '0' ++ significant,
          c.isDigit = true := by
        intro c hmem
        exact (List.mem_append.mp hmem).elim isDigit_of_mem_zeros (hdigits c)
      refine (decimal?_pointed negative ['0'] _ (by simp) hfraction (by simp)).trans ?_
      congr 2
      · exact (ofDigitChars_zeros_append 1 _).trans (ofDigitChars_zeros_append _ _)
      · rw [List.length_append, List.length_replicate]
        omega
  split
  · next hwithin =>
      have hjoin : significant.take point.toNat ++ significant.drop point.toNat = significant :=
        List.take_append_drop _ significant
      rw [decimal?_pointed negative _ _ (fun c hmem => hdigits c (List.mem_of_mem_take hmem))
        (fun c hmem => hdigits c (List.mem_of_mem_drop hmem)) (by rwa [hjoin]), hjoin,
        List.length_drop]
      congr 2
      omega
  · next hbeyond =>
      -- the zeros up to the point, and the one behind it, go over to the exponent
      obtain ⟨zeros, hzeros⟩ : ∃ zeros, (point - significant.length).toNat = zeros := ⟨_, rfl⟩
      have hwhole : ∀ c ∈ significant ++ List.replicate zeros '0', c.isDigit = true := by
        intro c hmem
        exact (List.mem_append.mp hmem).elim (hdigits c) isDigit_of_mem_zeros
      have hvalue : Nat.ofDigitChars 10 (significant ++ List.replicate zeros '0' ++ ['0']) 0 =
          Nat.ofDigitChars 10 significant 0 * 10 ^ (zeros + 1) := by
        rw [List.append_assoc, ← List.replicate_succ', Nat.ofDigitChars_append,
          Nat.ofDigitChars_replicate_zero, Nat.mul_comm]
      rw [hzeros, decimal?_pointed negative _ ['0'] hwhole (by simp) (by simp), hvalue,
        ofDecimal_mul_pow negative hpos]
      congr 2
      simp only [List.length_singleton]
      omega

theorem exists_zeros_at_end (digits : List Char) : ∃ zeros,
    digits = (digits.reverse.dropWhile (· = '0')).reverse ++ List.replicate zeros '0' := by
  obtain ⟨zeros, hzeros⟩ : ∃ zeros,
      digits.reverse.takeWhile (· = '0') = List.replicate zeros '0' := by
    refine ⟨_, List.eq_replicate_of_mem fun c hmem => ?_⟩
    exact of_decide_eq_true (List.all_eq_true.mp List.all_takeWhile c hmem)
  refine ⟨zeros, ?_⟩
  calc digits = digits.reverse.reverse := (List.reverse_reverse digits).symm
    _ = (digits.reverse.takeWhile (· = '0') ++ digits.reverse.dropWhile (· = '0')).reverse := by
      rw [List.takeWhile_append_dropWhile]
    _ = _ := by rw [hzeros, List.reverse_append, List.reverse_replicate]

/-- A text is made of significant digits, with the zeros behind them only counted. -/
theorem Decimal.exists_text_eq_placed (decimal : Decimal) : ∃ significant, ∃ zeros : Nat,
    decimal.text = placed significant (decimal.exponent + zeros + significant.length) ∧
      (∀ c ∈ significant, c.isDigit = true) ∧
      Nat.ofDigitChars 10 significant 0 * 10 ^ zeros = decimal.digits := by
  obtain ⟨zeros, hzeros⟩ := exists_zeros_at_end (Nat.toDigits 10 decimal.digits)
  refine ⟨_, zeros, congrArg (placed _) ?_, fun c hmem => ?_, ?_⟩
  · have hlength := congrArg List.length hzeros
    rw [List.length_append, List.length_replicate] at hlength
    omega
  · refine Nat.isDigit_of_mem_toDigits (b := 10) (n := decimal.digits) (by decide) (by decide) ?_
    rw [hzeros]
    exact List.mem_append_left _ hmem
  · rw [Nat.mul_comm, ← Nat.ofDigitChars_replicate_zero, ← Nat.ofDigitChars_append, ← hzeros,
      Nat.ofDigitChars_ten_toDigits]

/-- The text of a decimal is read as the number nearest to the decimal. -/
theorem Decimal.decimal?_text (negative : Bool) {decimal : Decimal} (hpos : 0 < decimal.digits) :
    decimal? negative decimal.text =
      some (.ofDecimal negative decimal.digits decimal.exponent) := by
  obtain ⟨significant, zeros, htext, hdigits, hvalue⟩ := decimal.exists_text_eq_placed
  have hsignificant : 0 < Nat.ofDigitChars 10 significant 0 :=
    Nat.pos_of_mul_pos_right (hvalue ▸ hpos)
  rw [htext, decimal?_placed negative hdigits hsignificant, Int.add_sub_cancel, ← hvalue,
    ofDecimal_mul_pow negative hsignificant]

theorem isPlain_of_mem_exponentDigits {exponent : Int} {c : Char}
    (h : c ∈ exponentDigits exponent) : IsPlain c := by
  rcases List.mem_cons.mp h with rfl | hdigit
  · split <;> decide
  · exact isPlain_of_isDigit (isDigit_of_mem_paddedDigits hdigit)

theorem isPlain_of_mem_placed (hdigits : ∀ c ∈ significant, c.isDigit = true) {point : Int}
    {c : Char} (h : c ∈ placed significant point) : IsPlain c := by
  have hplain : c ∈ significant → IsPlain c := fun hmem => isPlain_of_isDigit (hdigits c hmem)
  have hzeros : ∀ {zeros}, c ∈ List.replicate zeros '0' → IsPlain c :=
    fun hmem => isPlain_of_isDigit (isDigit_of_mem_zeros hmem)
  rw [placed] at h
  split at h
  · rw [List.mem_append, List.mem_append] at h
    rcases h with (hfirst | hmore) | hexponent
    · exact hplain (List.mem_of_mem_take hfirst)
    · split at hmore
      · cases hmore
      · rcases List.mem_cons.mp hmore with rfl | hdrop
        · decide
        · exact hplain (List.mem_of_mem_drop hdrop)
    · rcases List.mem_cons.mp hexponent with rfl | hmem
      · decide
      · exact isPlain_of_mem_exponentDigits hmem
  split at h
  · rcases List.mem_append.mp h with hlead | hmem
    · rcases List.mem_cons.mp hlead with rfl | hrest
      · decide
      · rcases List.mem_cons.mp hrest with rfl | hmem
        · decide
        · exact hzeros hmem
    · exact hplain hmem
  split at h
  · rcases List.mem_append.mp h with htake | hrest
    · exact hplain (List.mem_of_mem_take htake)
    · rcases List.mem_cons.mp hrest with rfl | hdrop
      · decide
      · exact hplain (List.mem_of_mem_drop hdrop)
  · rw [List.mem_append, List.mem_append] at h
    rcases h with (hmem | hmem) | hend
    · exact hplain hmem
    · exact hzeros hmem
    · rcases List.mem_cons.mp hend with rfl | hlast
      · decide
      · cases List.mem_singleton.mp hlast
        decide

theorem exists_placed_eq_cons (hdigits : ∀ c ∈ significant, c.isDigit = true)
    (hsome : significant ≠ []) (point : Int) :
    ∃ first rest, placed significant point = first :: rest ∧ first.isDigit = true := by
  obtain ⟨first, rest, rfl⟩ := List.exists_cons_of_ne_nil hsome
  have hfirst : first.isDigit = true := hdigits first List.mem_cons_self
  rw [placed]
  split
  · exact ⟨first, _, rfl, hfirst⟩
  split
  · exact ⟨'0', _, rfl, rfl⟩
  split
  · next hbefore _ =>
      obtain ⟨place, hplace⟩ : ∃ place, point.toNat = place + 1 :=
        ⟨point.toNat - 1, by omega⟩
      rw [hplace]
      exact ⟨first, _, rfl, hfirst⟩
  · exact ⟨first, _, rfl, hfirst⟩

/-- The text of a decimal begins with a digit, and all of it is in plain form. -/
theorem Decimal.exists_text_eq_cons {decimal : Decimal} (hpos : 0 < decimal.digits) :
    ∃ first rest, decimal.text = first :: rest ∧ first.isDigit = true ∧
      ∀ c ∈ first :: rest, IsPlain c := by
  obtain ⟨significant, zeros, htext, hdigits, hvalue⟩ := decimal.exists_text_eq_placed
  have hsome : significant ≠ [] := by
    rintro rfl
    rw [← hvalue, Nat.ofDigitChars_nil, Nat.zero_mul] at hpos
    exact Nat.lt_irrefl 0 hpos
  obtain ⟨first, rest, hplaced, hfirst⟩ := exists_placed_eq_cons hdigits hsome _
  refine ⟨first, rest, htext.trans hplaced, hfirst, fun c hmem => ?_⟩
  rw [← hplaced] at hmem
  exact isPlain_of_mem_placed hdigits hmem

/-! ## Reading a shortest text -/

theorem Decimal.readsAs_iff {decimal : Decimal} {units : Nat} :
    decimal.readsAs units = true ↔
      ∃ sign fits, ofDecimal false decimal.digits decimal.exponent = finite sign units fits := by
  rw [readsAs]
  constructor
  · intro h
    split at h
    · next sign nearest fits heq =>
        obtain rfl := of_decide_eq_true h
        exact ⟨sign, fits, heq⟩
    · cases h
  · rintro ⟨sign, fits, heq⟩
    rw [heq]
    exact decide_eq_true rfl

theorem readsAs_exactDecimal {units : Nat} (hfits : Fits units) (hpos : 0 < units) :
    (exactDecimal units).readsAs units = true := by
  have hdigits : 0 < units * 5 ^ 1074 := by
    apply Nat.mul_pos hpos
    apply Nat.pow_pos
    decide
  have hten : ∀ places : Nat, 5 ^ places * 2 ^ places = 10 ^ places :=
    fun places => (Nat.mul_pow 5 2 places).symm
  have hunits : units * 5 ^ 1074 * 10 ^ Int.toNat (-1074) * unitsInOne = units * 10 ^ 1074 := by
    rw [show Int.toNat (-1074) = 0 from rfl, Nat.pow_zero, Nat.mul_one, unitsInOne,
      Nat.mul_assoc, hten]
  refine Decimal.readsAs_iff.mpr ⟨false, hfits, ?_⟩
  rw [exactDecimal, ofDecimal_eq_ofRatio false hdigits, hunits,
    show Int.toNat (-(-1074)) = 1074 from rfl]
  refine ofRatio_of_fits false hfits ?_
  apply Nat.pow_pos
  decide

/-- Whichever grid answers, the decimal reads as the magnitude. -/
theorem readsAs_shortestDecimal {units : Nat} (hfits : Fits units) (hpos : 0 < units) :
    (shortestDecimal units).readsAs units = true := by
  rw [shortestDecimal]
  cases hfound : (List.range 17).findSome? _ with
  | none => exact readsAs_exactDecimal hfits hpos
  | some decimal =>
      obtain ⟨count, -, hgrid⟩ := List.exists_of_findSome?_eq_some hfound
      exact List.find?_some (p := (Decimal.readsAs · units)) hgrid

theorem digits_shortestDecimal_pos {units : Nat} (hfits : Fits units) (hpos : 0 < units) :
    0 < (shortestDecimal units).digits := by
  obtain ⟨sign, fits, hread⟩ := Decimal.readsAs_iff.mp (readsAs_shortestDecimal hfits hpos)
  refine Nat.pos_of_ne_zero fun hzero => ?_
  rw [hzero, ofDecimal, if_pos rfl] at hread
  cases hread
  exact Nat.lt_irrefl 0 hpos

theorem decimal?_shortestDecimal {units : Nat} (negative : Bool) (hfits : Fits units)
    (hpos : 0 < units) :
    decimal? negative (shortestDecimal units).text = some (finite negative units hfits) := by
  obtain ⟨sign, fits, hread⟩ := Decimal.readsAs_iff.mp (readsAs_shortestDecimal hfits hpos)
  rw [Decimal.decimal?_text negative (digits_shortestDecimal_pos hfits hpos),
    ofDecimal_of_eq_finite hread negative]

/-- A number whose first character is a digit is none of the words. -/
theorem binary64?_cons (negative : Bool) {first : Char} {rest : List Char}
    (hfirst : first.isDigit = true) (hplain : ∀ c ∈ first :: rest, IsPlain c) :
    binary64? (.ofList (signMark negative ++ first :: rest)) =
      decimal? negative (first :: rest) := by
  have hall : ∀ c ∈ signMark negative ++ first :: rest, IsPlain c := by
    intro c hmem
    rcases List.mem_append.mp hmem with hsign | hbody
    · cases negative with
      | false => cases hsign
      | true => rcases List.mem_singleton.mp hsign with rfl; decide
    · exact hplain c hbody
  have hsign : splitSign (signMark negative ++ first :: rest) = (negative, first :: rest) := by
    cases negative with
    | false => exact splitSign_cons hfirst rest
    | true => rfl
  have hword : ∀ {letter letters}, letter.isDigit = false →
      String.ofList ((first :: rest).map Char.toLower) ≠ String.ofList (letter :: letters) := by
    intro letter letters hletter heq
    have hlist := String.ofList_injective heq
    rw [List.map_cons, toLower_of_isDigit hfirst] at hlist
    cases hlist
    rw [hfirst] at hletter
    cases hletter
  rw [binary64?, plain?_of_isPlain hall]
  simp only [Option.bind_eq_bind, Option.bind_some, hsign]
  rw [if_neg (not_or.mpr ⟨hword rfl, hword rfl⟩), if_neg (hword rfl)]

/-- What a number is shown as is read as that number. -/
theorem binary64?_shortest (x : Binary64) : binary64? x.shortest = some x := by
  cases x with
  | nan => rfl
  | infinity negative => cases negative <;> rfl
  | finite negative units hfits =>
      rcases Nat.eq_zero_or_pos units with rfl | hpos
      · have hread : decimal? negative ['0', '.', '0'] = some (zero negative) :=
          decimal?_pointed negative ['0'] ['0'] (List.forall_mem_singleton.mpr rfl)
            (List.forall_mem_singleton.mpr rfl) (List.cons_ne_nil _ _)
        have hplain : ∀ c ∈ ['0', '.', '0'], IsPlain c := by
          rw [List.forall_mem_cons, List.forall_mem_cons, List.forall_mem_singleton]
          decide
        rw [shortest, if_pos rfl, binary64?_cons negative rfl hplain, hread]
        rfl
      · obtain ⟨first, rest, htext, hfirst, hplain⟩ :=
          Decimal.exists_text_eq_cons (digits_shortestDecimal_pos hfits hpos)
        rw [shortest, if_neg (by omega), htext, binary64?_cons negative hfirst hplain, ← htext]
        exact decimal?_shortestDecimal negative hfits hpos

end Binary64

end Heartbeat
