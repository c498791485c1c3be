import Mathlib.Algebra.Order.Floor.Semifield
import Mathlib.Data.Rat.Floor
import Heartbeat.Proofs.FirstRun
import Heartbeat.Proofs.WholeNumbers

/-!
# Steps of the progress

A progress line shows the whole part of an exact share, so what is known of the lines is what is
known of whole parts. They never go back (`percent_le`). With a hundred datagrams or fewer each step
is one percent at least, so no line comes twice (`percent_lt_percent`), and with a hundred or more
it is one percent at most, so none is left out (`exists_percent_eq`).

A run writes these lines from the first one on, as many as datagrams go out, and behind them at most
the line of a complete run (`Sender.Runs.texts_eq`).
-/

namespace Heartbeat

namespace Binary64

theorem value?_ofInt {n : Nat} (h : n < 2 ^ 53) : (ofInt n).value? = some (n : ℚ) := by
  rw [ofInt_whole h, value?_finite_iff]
  show _ = (((n * unitsInOne : Nat) : Int) : ℚ)
  rw [Int.cast_natCast, Nat.cast_mul]

theorem ofInt_le_ofInt {m n : Nat} (hle : m ≤ n) (h : n < 2 ^ 53) : ofInt m ≤ ofInt n := by
  refine le_iff_position.mpr ⟨_, _, isWhole_ofInt (by omega), isWhole_ofInt h, ?_⟩
  exact Int.mul_le_mul_of_nonneg_right (Int.ofNat_le.mpr hle) (Int.le_of_lt unitsInOne_pos')

end Binary64

namespace Progress

/-! ## Whole parts -/

variable {index later count : Nat}

theorem percent_le (h : index ≤ later) (count : Nat) :
    100 * index / count ≤ 100 * later / count :=
  Nat.div_le_div_right (Nat.mul_le_mul_left 100 h)

/-- A step of a short run is one percent at least. -/
theorem percent_lt_percent (hlt : index < later) (hpos : 0 < count) (hshort : count ≤ 100) :
    100 * index / count < 100 * later / count :=
  calc 100 * index / count < 100 * index / count + 1 := Nat.lt_succ_self _
    _ = (100 * index + count) / count := (Nat.add_div_right _ hpos).symm
    _ ≤ 100 * later / count := Nat.div_le_div_right (by omega)

/-- A step of a long run is one percent at most, so that every percentage has its position: the
first one that it does not lie behind. -/
theorem exists_percent_eq {percent : Nat} (hlong : 100 ≤ count) (h : percent < 100) :
    ∃ index < count, 100 * index / count = percent := by
  have hupper : (percent + 1) * count ≤ 100 * count := Nat.mul_le_mul_right count h
  have hsucc : (percent + 1) * count = percent * count + count := Nat.succ_mul percent count
  refine ⟨(percent * count + 99) / 100, by omega, ?_⟩
  rw [Nat.div_eq_iff (by omega)]
  omega

theorem line_inj (hindex : index < count) (hlater : later < count) :
    line index count = line later count ↔ 100 * index / count = 100 * later / count := by
  rw [line_eq hindex, line_eq hlater, String.append_left_inj]
  constructor
  · intro h
    exact Nat.repr_injective h
  · intro h
    rw [h]

/-! ## The lines of a run -/

/-- The progress lines of a run in which all datagrams go out. -/
def lines (count : Nat) : List String := (List.range count).map (line · count)

theorem nodup_lines (hshort : count ≤ 100) : (lines count).Nodup := by
  rw [lines, List.nodup_iff_pairwise_ne, List.pairwise_map]
  refine List.pairwise_lt_range.imp_of_mem ?_
  intro index later hindex hlater hlt hsame
  have hlater := List.mem_range.mp hlater
  have hstep := percent_lt_percent hlt (by omega) hshort
  have hline := (line_inj (by omega) hlater).mp hsame
  omega

theorem mem_lines {percent : Nat} (hlong : 100 ≤ count) (h : percent < 100) :
    toString percent ++ ".00 %" ∈ lines count := by
  obtain ⟨index, hindex, hpercent⟩ := exists_percent_eq hlong h
  refine List.mem_map.mpr ⟨index, List.mem_range.mpr hindex, ?_⟩
  rw [line_eq hindex, hpercent]

end Progress

namespace Sender

open Progress

variable {hold : Bool} {sender final : Sender} {stage : Stage} {log : List Event}
  {result : Except SenderError Nat}

theorem map_progressText {count sent : Nat} (hle : sent ≤ count) :
    (List.range sent).map (progressText count) = ((lines count).take sent).map (· ++ "\n") := by
  rw [lines, ← List.map_take, List.take_range, Nat.min_eq_left hle, List.map_map]
  rfl

/-- A run writes progress lines from the first one on, and at most the line of a complete run
behind them. -/
theorem Runs.texts_eq (h : Runs hold sender stage log result final) :
    ∃ ending, (ending = [] ∨ ending = [completeLine]) ∧ Log.texts log =
      ((lines sender.config.count).take (Log.sentCount log) ++ ending).map (· ++ "\n") := by
  obtain ⟨body, _, _, ending, hsend, rfl, hending⟩ := h.exists_sendsAll
  have hbody : Log.texts body =
      ((lines sender.config.count).take (Log.sentCount body)).map (· ++ "\n") := by
    rw [hsend.texts_of_whole, map_progressText hsend.sentCount_le]
  obtain ⟨shown, hshown, htexts, hsent⟩ : ∃ shown, (shown = [] ∨ shown = [completeLine]) ∧
      Log.texts ending = shown.map (· ++ "\n") ∧ Log.sentCount ending = 0 := by
    rcases hending with rfl | rfl
    · exact ⟨[], .inl rfl, rfl, rfl⟩
    · exact ⟨[completeLine], .inr rfl, rfl, rfl⟩
  have hclosed : Log.texts [.closed] = [] ∧ Log.sentCount [.closed] = 0 := ⟨rfl, rfl⟩
  refine ⟨shown, hshown, ?_⟩
  rw [Log.texts_append, Log.texts_append, Log.sentCount_append, Log.sentCount_append, hbody, htexts,
    hsent, hclosed.1, hclosed.2, List.map_append, List.append_nil]
  rfl

end Sender

namespace Progress

/-- The share shown at a position of a run is the whole part of the exact one, from 0 to 99, and not
more than at a later position. It is shown with zeros behind the point, never as the line of a
complete run. Of up to a hundred lines no two are the same, and of a hundred or more none is left
out; and what a run writes is these lines in order, with at most the line of a complete run behind
them. -/
theorem lines_ascend (count : Nat) :
    (∀ index later : Nat, index ≤ later → later < count → ∃ share further,
      percent? index count = some share ∧ percent? later count = some further ∧
        share.value? = some (⌊(100 * index : ℚ) / count⌋₊ : ℚ) ∧
        ⌊(100 * index : ℚ) / count⌋₊ ≤ 99 ∧ share ≤ further ∧
        format share = toString ⌊(100 * index : ℚ) / count⌋₊ ++ ".00 %" ∧
        line index count = format share ∧ format share ≠ completeLine) ∧
      (count ≤ 100 → (lines count).Nodup) ∧
      (100 ≤ count → ∀ percent < 100, toString percent ++ ".00 %" ∈ lines count) ∧
      ∀ (hold : Bool) (sender : Sender) (stage : Stage), sender.config.count = count →
        ∃ log result final ending,
          sender.run (rehearsal hold) stage = ((result, final), stage.after log) ∧
            (ending = [] ∨ ending = [completeLine]) ∧
            Log.texts log = ((lines count).take (Log.sentCount log) ++ ending).map (· ++ "\n") := by
  refine ⟨?_, nodup_lines, fun hlong percent => mem_lines hlong, ?_⟩
  · intro index later hle hlater
    have hindex : index < count := Nat.lt_of_le_of_lt hle hlater
    have hpercent := percent_lt hindex
    have hfurther := percent_lt hlater
    have hfloor : ⌊(100 * index : ℚ) / count⌋₊ = 100 * index / count := by
      have hcast := Nat.floor_div_eq_div (K := ℚ) (100 * index) count
      rwa [Nat.cast_mul] at hcast
    have hline : line index count = format (.ofInt (100 * index / count : Nat)) := by
      rw [line, percent?_eq hindex, Option.getD_some]
    rw [hfloor]
    refine ⟨_, _, percent?_eq hindex, percent?_eq hlater, Binary64.value?_ofInt (by omega),
      by omega, Binary64.ofInt_le_ofInt (percent_le hle count) (by omega), format_whole (by omega),
      hline, ?_⟩
    rw [← hline]
    exact line_ne_completeLine hindex
  · intro hold sender stage hcount
    obtain ⟨log, result, final, hrun⟩ := Sender.exists_runs hold sender stage
    obtain ⟨ending, hending, htexts⟩ := hrun.texts_eq
    rw [hcount] at htexts
    exact ⟨log, result, final, ending, hrun.eq, hending, htexts⟩

end Progress

end Heartbeat
