import Mathlib.Algebra.GroupWithZero.Nat
import Mathlib.Algebra.Order.BigOperators.Group.List
import Mathlib.Data.List.Forall2
import Heartbeat.Proofs.ArrivalWindow
import Heartbeat.Proofs.SumOrder

/-!
# The statistics of whole gaps

When the arrivals of a node are whole seconds, so are the gaps between them, and these add up to the
time from the first arrival to the last. Nothing is lost up to the mean, which is the number nearest
to the exact one, and the largest gap is one of the gaps.

The deviation goes through the rounded mean and through squares, so it is not exact. But it is zero
just when the gaps are equal: equal gaps are their own mean, and a gap that is not the rounded mean
is so far from it that neither the square of the distance nor its share in the mean of the squares
vanishes (`reaches_deviation`).
-/

namespace Heartbeat.Watchdog

open Binary64

/-! ## Whole numbers in a list -/

/-- The numbers are these whole numbers. -/
def AreWhole (numbers : List Binary64) (wholes : List Nat) : Prop :=
  List.Forall₂ (fun number n => IsWhole number (n : Nat)) numbers wholes

/-- The whole number that a number is, if it is one. -/
def whole (number : Binary64) : Nat := (number.position.getD 0 / unitsInOne).toNat

theorem whole_eq {number : Binary64} {n : Nat} (h : IsWhole number n) : whole number = n := by
  rw [whole, h, Option.getD_some, Int.mul_ediv_cancel _ (ne_of_gt unitsInOne_pos'),
    Int.toNat_natCast]

section AreWhole

variable {numbers : List Binary64} {wholes : List Nat} (h : AreWhole numbers wholes)

include h

theorem AreWhole.map_whole : numbers.map whole = wholes := by
  induction h with
  | nil => rfl
  | cons hfirst _ ih => rw [List.map_cons, whole_eq hfirst, ih]

theorem AreWhole.isWhole_of_mem {number : Binary64} (hmem : number ∈ numbers) :
    IsWhole number (whole number) := by
  induction h with
  | nil => cases hmem
  | @cons first n _ _ hfirst _ ih =>
      rcases List.mem_cons.mp hmem with rfl | hrest
      · rw [whole_eq hfirst]
        exact hfirst
      · exact ih hrest

theorem AreWhole.whole_mem {number : Binary64} (hmem : number ∈ numbers) :
    whole number ∈ wholes := by
  rw [← h.map_whole]
  exact List.mem_map_of_mem hmem

theorem AreWhole.exists_of_mem {n : Nat} (hmem : n ∈ wholes) :
    ∃ number ∈ numbers, IsWhole number n := by
  rw [← h.map_whole, List.mem_map] at hmem
  obtain ⟨number, hnumber, rfl⟩ := hmem
  exact ⟨number, hnumber, h.isWhole_of_mem hnumber⟩

/-- Whole numbers are added up exactly, in whatever order. -/
theorem AreWhole.sum (hbound : wholes.sum < 2 ^ 53) : IsWhole (sum numbers) (wholes.sum : Nat) := by
  have hsum : ((numbers : Multiset Binary64).map whole).sum = wholes.sum := by
    rw [Multiset.map_coe, h.map_whole, Multiset.sum_coe]
  rw [← hsum] at hbound ⊢
  exact (adds_sum numbers).isWhole (fun number hmem => h.isWhole_of_mem hmem) hbound

end AreWhole

/-! ## Whole gaps -/

/-- The gaps between neighbouring times. -/
def wholeGaps (times : List Nat) : List Nat :=
  List.zipWith (fun earlier later => later - earlier) times times.tail

theorem wholeGaps_cons (first second : Nat) (rest : List Nat) :
    wholeGaps (first :: second :: rest) = (second - first) :: wholeGaps (second :: rest) := rfl

theorem length_wholeGaps (times : List Nat) : (wholeGaps times).length = times.length - 1 := by
  rw [wholeGaps, List.length_zipWith, List.length_tail]
  omega

theorem areWhole_gaps {arrivals : List Binary64} {times : List Nat} (h : AreWhole arrivals times)
    (hsorted : times.Pairwise (· ≤ ·)) (hbound : ∀ time ∈ times, time < 2 ^ 53) :
    AreWhole (gaps arrivals) (wholeGaps times) := by
  induction h with
  | nil => exact .nil
  | @cons arrival first _ _ hfirst hrest ih =>
      cases hrest with
      | nil => exact .nil
      | @cons following second _ rest hsecond hrest =>
          rw [List.pairwise_cons] at hsorted
          rw [List.forall_mem_cons] at hbound
          have hle : first ≤ second := hsorted.1 second List.mem_cons_self
          have hlt : second < 2 ^ 53 := hbound.2 second List.mem_cons_self
          have hgap : IsWhole (following - arrival) ((second - first : Nat) : Int) := by
            rw [Int.ofNat_sub hle]
            exact hsecond.sub hfirst (by omega) (by omega) (by omega)
          exact .cons hgap (ih hsorted.2 hbound.2)

/-- The gaps add up to the time between the first and the last. -/
theorem sum_wholeGaps {first last : Nat} {times : List Nat} (hfirst : times.head? = some first)
    (hlast : times.getLast? = some last) (hsorted : times.Pairwise (· ≤ ·)) :
    first + (wholeGaps times).sum = last := by
  induction times generalizing first with
  | nil => cases hfirst
  | cons time rest ih =>
      obtain rfl := Option.some.inj hfirst
      cases rest with
      | nil =>
          obtain rfl := Option.some.inj hlast
          rfl
      | cons second rest =>
          rw [List.pairwise_cons] at hsorted
          rw [List.getLast?_cons_cons] at hlast
          have hle : time ≤ second := hsorted.1 second List.mem_cons_self
          have hrest := ih rfl hlast hsorted.2
          rw [wholeGaps_cons, List.sum_cons]
          omega

/-! ## The mean and the largest -/

section Mean

variable {terms : List Binary64} {wholes : List Nat} (h : AreWhole terms wholes)
  (hbound : wholes.sum < 2 ^ 53) (hpos : 0 < terms.length) (hlength : terms.length < 2 ^ 53)

include h hbound hpos hlength

theorem isNearest_mean : IsNearest (mean terms) ((wholes.sum : ℚ) / terms.length) :=
  (h.sum hbound).isNearest_div hbound hpos hlength

/-- Equal terms are their own mean. -/
theorem isWhole_mean {n : Nat} (hequal : ∀ other ∈ wholes, other = n) : IsWhole (mean terms) n := by
  have hreplicate : wholes = List.replicate terms.length n := by
    rw [h.length_eq, List.eq_replicate_iff]
    exact ⟨rfl, hequal⟩
  have hsum : wholes.sum = n * terms.length := by
    rw [hreplicate, List.sum_replicate_nat, Nat.mul_comm]
  have hwhole := h.sum hbound
  rw [hsum] at hwhole hbound
  exact hwhole.div_mul hbound hpos hlength

end Mean

theorem isWhole_foldl_max {start : Binary64} {n : Nat} (hstart : IsWhole start n)
    {numbers : List Binary64} {wholes : List Nat} (h : AreWhole numbers wholes) :
    IsWhole (numbers.foldl Binary64.max start) (wholes.foldl Max.max n : Nat) := by
  induction h generalizing start n with
  | nil => exact hstart
  | cons hfirst _ ih => exact ih (hstart.max hfirst)

/-- The largest of whole numbers is one of them, and none is larger. -/
theorem isWhole_largest {numbers : List Binary64} {wholes : List Nat} (h : AreWhole numbers wholes)
    (hne : wholes ≠ []) :
    ∃ n ∈ wholes, IsWhole (largest numbers) n ∧ ∀ other ∈ wholes, other ≤ n := by
  cases h with
  | nil => exact absurd rfl hne
  | @cons first n numbers wholes hfirst hrest =>
      have hmax : (n :: wholes).max? = some (wholes.foldl Max.max n) := List.max?_cons'
      rw [List.max?_eq_some_iff] at hmax
      exact ⟨_, hmax.1, isWhole_foldl_max hfirst hrest, hmax.2⟩

/-! ## The deviation -/

theorem areWhole_replicate {numbers : List Binary64} {n : Nat}
    (h : ∀ number ∈ numbers, IsWhole number n) :
    AreWhole numbers (List.replicate numbers.length n) := by
  induction numbers with
  | nil => exact .nil
  | cons first rest ih =>
      rw [List.forall_mem_cons] at h
      exact .cons h.1 (ih h.2)

/-- The squared distances from the mean. -/
def squares (terms : List Binary64) : List Binary64 :=
  terms.map fun term => (term - mean terms) * (term - mean terms)

theorem deviation_eq (terms : List Binary64) : deviation terms = (mean (squares terms)).sqrt := rfl

theorem length_squares (terms : List Binary64) : (squares terms).length = terms.length :=
  List.length_map _

section Deviation

variable {terms : List Binary64} {wholes : List Nat} (h : AreWhole terms wholes)
  (hbound : wholes.sum < 2 ^ 53) (hpos : 0 < terms.length)

include h hbound hpos

/-- Equal terms do not deviate. -/
theorem isWhole_deviation (hlength : terms.length < 2 ^ 53) {n : Nat}
    (hequal : ∀ other ∈ wholes, other = n) : IsWhole (deviation terms) 0 := by
  have hmean := isWhole_mean h hbound hpos hlength hequal
  have hsquares : ∀ square ∈ squares terms, IsWhole square (0 : Nat) := by
    rw [squares, List.forall_mem_map]
    intro term hterm
    have hmem := h.whole_mem hterm
    have hle := List.le_sum_of_mem hmem
    have hwhole := h.isWhole_of_mem hterm
    rw [hequal _ hmem] at hwhole hle
    have hdiff := hwhole.sub hmean (by omega) (by omega) (by omega)
    rw [Int.sub_self] at hdiff
    exact hdiff.mul_self_zero
  rw [← length_squares] at hpos hlength
  rw [deviation_eq]
  generalize squares terms = squares at hpos hlength hsquares
  have hnone : (List.replicate squares.length 0).sum < 2 ^ 53 := by
    rw [List.sum_replicate_nat, Nat.mul_zero]
    omega
  have hzero := isWhole_mean (areWhole_replicate hsquares) hnone hpos hlength
    fun _ hother => List.eq_of_mem_replicate hother
  exact hzero.sqrt_zero

/-- The mean is finite, and not small unless it is zero: at least `2 ^ -10`, that is `2 ^ 1064`
units. -/
theorem exists_mean_eq (hlength : terms.length < 2 ^ 10) :
    ∃ negative units fits, mean terms = finite negative units fits ∧
      (0 < wholes.sum → 2 ^ 1064 ≤ units) := by
  have hplace := (h.sum hbound).position_div hbound hpos (by omega)
  have hlt : roundUnits (wholes.sum * unitsInOne) terms.length < unitsAtOverflow :=
    Nat.lt_of_le_of_lt (roundUnits_div_le (whole_fits hbound) hpos)
      (whole_lt_unitsAtOverflow hbound)
  change (mean terms).position = _ at hplace
  generalize mean terms = centre at hplace
  cases centre with
  | nan => cases hplace
  | infinity negative =>
      have hunits := congrArg Int.natAbs (Option.some.inj hplace)
      rw [natAbs_signed, Int.natAbs_natCast] at hunits
      omega
  | finite negative units fits =>
      have hunits := congrArg Int.natAbs (Option.some.inj hplace)
      rw [natAbs_signed, Int.natAbs_natCast] at hunits
      refine ⟨negative, units, fits, rfl, ?_⟩
      intro hsum
      rw [hunits]
      apply two_pow_le_roundUnits
      rw [Nat.le_div_iff_mul_le hpos]
      calc 2 ^ 1064 * terms.length ≤ 2 ^ 1064 * 2 ^ 10 :=
            Nat.mul_le_mul_left _ (Nat.le_of_lt hlength)
        _ = unitsInOne := two_pow_mul_two_pow (by omega)
        _ ≤ wholes.sum * unitsInOne := Nat.le_mul_of_pos_left _ hsum

/-- Of terms that are not equal one is not the mean, and then both are multiples of `2 ^ -62`. -/
theorem exists_apart (hlength : terms.length < 2 ^ 10) {m n : Nat} (hm : m ∈ wholes)
    (hn : n ∈ wholes) (hne : m ≠ n) : ∃ term ∈ terms, Apart 1012 (term - mean terms) := by
  obtain ⟨negative, units, fits, hmean, hlarge⟩ := exists_mean_eq h hbound hpos hlength
  have hlem := List.le_sum_of_mem hm
  have hlen := List.le_sum_of_mem hn
  have hdvd : 2 ^ (1064 - 52) ∣ units := two_pow_dvd_of_le fits (hlarge (by omega))
  obtain ⟨number, hnumber, hother⟩ :
      ∃ number ∈ wholes, ¬ IsWhole (finite negative units fits) number := by
    by_cases hsame : IsWhole (finite negative units fits) m
    · refine ⟨n, hn, ?_⟩
      intro hwhole
      exact hne (Int.ofNat_inj.mp (hsame.unique hwhole))
    · exact ⟨m, hm, hsame⟩
  have hle := List.le_sum_of_mem hnumber
  obtain ⟨term, hterm, hwhole⟩ := h.exists_of_mem hnumber
  obtain ⟨sign, count, hcount, rfl, hplace⟩ := hwhole.exists_finite (by omega)
  have hunits : count = number * unitsInOne := by
    rw [← natAbs_signed sign count, hplace, natAbs_mul_unitsInOne, Int.natAbs_natCast]
  have hone : 2 ^ (1064 - 52) ∣ unitsInOne := Dvd.intro (2 ^ 62) (two_pow_mul_two_pow (by omega))
  have hdvd' : 2 ^ (1064 - 52) ∣ count := hunits ▸ Nat.dvd_mul_left_of_dvd hone number
  refine ⟨_, hterm, ?_⟩
  rw [hmean]
  apply apart_sub (by omega) hdvd' hdvd
  intro heq
  exact hother (congrArg some (heq.symm.trans hplace))

theorem zero_le_of_mem_squares (hlength : terms.length < 2 ^ 10) {square : Binary64}
    (hsquare : square ∈ squares terms) : 0 ≤ square := by
  obtain ⟨term, hterm, rfl⟩ := List.mem_map.mp hsquare
  obtain ⟨negative, units, fits, hmean, -⟩ := exists_mean_eq h hbound hpos hlength
  have hle := List.le_sum_of_mem (h.whole_mem hterm)
  obtain ⟨sign, count, hcount, heq, -⟩ := (h.isWhole_of_mem hterm).exists_finite (by omega)
  apply zero_le_mul_self
  rw [hmean, heq]
  intro hnan
  have hplace := position_add_finite sign (!negative) hcount fits
  change (finite sign count hcount - finite negative units fits).position = _ at hplace
  rw [hnan] at hplace
  cases hplace

/-- Terms that are not equal deviate. -/
theorem reaches_deviation (hlength : terms.length < 2 ^ 10) {m n : Nat} (hm : m ∈ wholes)
    (hn : n ∈ wholes) (hne : m ≠ n) : Reaches 0 (deviation terms) := by
  obtain ⟨term, hterm, hapart⟩ := exists_apart h hbound hpos hlength hm hn hne
  -- the square is at least `2 ^ -124`, and a mean of not more than 1023 squares `2 ^ -134`
  have hsquare : Reaches (2 * 475) ((term - mean terms) * (term - mean terms)) :=
    Apart.mul_self hapart (by omega)
  have hmem : (term - mean terms) * (term - mean terms) ∈ squares terms :=
    List.mem_map_of_mem hterm
  have hle := ((adds_sum (squares terms)).le
    fun square hsquare => zero_le_of_mem_squares h hbound hpos hlength hsquare).2 _ hmem
  have hsum : Reaches (940 + 10) (sum (squares terms)) := hsquare.of_le hle
  rw [← length_squares] at hpos hlength
  have hmean : Reaches 940 (mean (squares terms)) := hsum.div (by omega) hpos hlength
  exact hmean.sqrt

end Deviation

/-! ## The statistics of a node -/

/-- The statistics of whole times. The mean is rounded once, the largest gap is exact, and the
deviation tells whether the gaps are equal. -/
structure WholeStatistics (times : List Nat) (statistics : Statistics) : Prop where
  mean_nearest : ∃ first last, times.head? = some first ∧ times.getLast? = some last ∧
    IsNearest statistics.mean (((last : ℚ) - first) / (times.length - 1))
  largest_eq : ∃ gap ∈ wholeGaps times, IsWhole statistics.largest gap ∧
    ∀ other ∈ wholeGaps times, other ≤ gap
  deviation_eq_zero : IsWhole statistics.deviation 0 ↔ ∃ gap, ∀ other ∈ wholeGaps times, other = gap
  of_equal : ∀ gap, (∀ other ∈ wholeGaps times, other = gap) →
    IsWhole statistics.mean gap ∧ IsWhole statistics.largest gap

theorem wholeStatistics_ofArrivals {arrivals : List Binary64} {times : List Nat}
    (hwindow : AreWhole arrivals times) (hlength : times.length ≤ 1024) (henough : 2 ≤ times.length)
    (hsorted : times.Pairwise (· ≤ ·)) (hbound : ∀ time ∈ times, time < 2 ^ 53) :
    WholeStatistics times (.ofArrivals arrivals) := by
  have hgaps := areWhole_gaps hwindow hsorted hbound
  have hcount : (gaps arrivals).length = times.length - 1 := by
    rw [hgaps.length_eq, length_wholeGaps]
  have hsome : times ≠ [] := by
    rw [← List.length_pos_iff]
    omega
  obtain ⟨first, hfirst⟩ : ∃ first, times.head? = some first := by
    rw [← Option.ne_none_iff_exists', Ne, List.head?_eq_none_iff]
    exact hsome
  obtain ⟨last, hlast⟩ : ∃ last, times.getLast? = some last := by
    rw [← Option.ne_none_iff_exists', Ne, List.getLast?_eq_none_iff]
    exact hsome
  have hsum := sum_wholeGaps hfirst hlast hsorted
  have hlastBound : last < 2 ^ 53 := hbound last (List.mem_of_getLast? hlast)
  have htotal : (wholeGaps times).sum < 2 ^ 53 := by omega
  have hpos : 0 < (gaps arrivals).length := by omega
  have hne : wholeGaps times ≠ [] := by
    rw [← List.length_pos_iff, length_wholeGaps]
    omega
  have hlarge : ¬ arrivals.length < 2 := by
    rw [hwindow.length_eq]
    omega
  obtain ⟨largest, hmem, hlargest, hmost⟩ := isWhole_largest hgaps hne
  rw [Statistics.ofArrivals, if_neg hlarge]
  constructor
  all_goals dsimp only
  · refine ⟨first, last, hfirst, hlast, ?_⟩
    have hnearest := isNearest_mean hgaps htotal hpos (by omega)
    rw [hcount, Nat.cast_sub (by omega), Nat.cast_one] at hnearest
    rw [← hsum, Nat.cast_add, add_sub_cancel_left]
    exact hnearest
  · exact ⟨largest, hmem, hlargest, hmost⟩
  · constructor
    · intro hzero
      refine ⟨largest, ?_⟩
      intro other hother
      by_contra hdiffer
      have hreaches := reaches_deviation hgaps htotal hpos (by omega) hother hmem hdiffer
      exact hreaches.not_zero (isWhole_zero_iff.mp hzero)
    · intro hequal
      obtain ⟨gap, hequal⟩ := hequal
      exact isWhole_deviation hgaps htotal hpos (by omega) hequal
  · intro gap hequal
    obtain rfl := hequal largest hmem
    exact ⟨isWhole_mean hgaps htotal hpos (by omega) hequal, hlargest⟩

/-- The statistics of a node that has been heard at whole seconds only, whatever the session has
done before. The mean is the number nearest to the exact one, the largest gap is exact, and the
deviation is zero just when the gaps are equal, in which case they are what the mean and the largest
show. -/
theorem statistics_of_whole_times (clock : Binary64) (steps : List Step) (name : String)
    {times : List Nat}
    (hwindow : AreWhole ((Session.after { clock } steps).watchdog.arrivals name) times)
    (henough : 2 ≤ times.length) (hsorted : times.Pairwise (· ≤ ·))
    (hbound : ∀ time ∈ times, time < 2 ^ 53) :
    WholeStatistics times ((Session.after { clock } steps).watchdog.statistics name) := by
  have hremembers : (Session.after { clock } steps).Remembers (Session.chronicle { clock } steps) :=
    (Session.remembers_new clock).after steps
  have hlength : times.length ≤ 1024 := by
    rw [← hwindow.length_eq, hremembers.arrivals]
    exact length_recent_le _
  exact wholeStatistics_ofArrivals hwindow hlength henough hsorted hbound

/-- Three arrivals, of which the second gap is longer. -/
theorem statistics_of_three :
    let session := Session.after { clock := 0 }
      [.record "a" [] (some 1), .record "a" [] (some 2), .record "a" [] (some 4)]
    AreWhole (session.watchdog.arrivals "a") [1, 2, 4] ∧ WholeStatistics [1, 2, 4]
      (session.watchdog.statistics "a") := by
  have harrivals : (Session.after { clock := 0 } [.record "a" [] (some 1), .record "a" [] (some 2),
      .record "a" [] (some 4)]).watchdog.arrivals "a" = [1, 2, 4] := by decide +kernel
  have hwindow : AreWhole [1, 2, 4] [1, 2, 4] :=
    .cons (isWhole_ofInt (n := 1) (by omega)) (.cons (isWhole_ofInt (n := 2) (by omega))
      (.cons (isWhole_ofInt (n := 4) (by omega)) .nil))
  rw [← harrivals] at hwindow
  exact ⟨hwindow, statistics_of_whole_times 0 _ "a" hwindow (by decide) (by decide) (by decide)⟩

end Heartbeat.Watchdog
