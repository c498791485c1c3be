import Heartbeat.Proofs.ChosenOptions
import Heartbeat.Proofs.NearestNumber
import Heartbeat.Watch.Command

/-!
# A watch that is cut short

A watch is a list of iterations, each of which begins at a clock reading, reads the listener once
and shows what comes of it. The course of the command is made of this list
(`course_eq_ofIterations`), and so is its report (`Options.watch_eq_report`). A deadline is looked
at before an iteration and not within it: it takes away all iterations from the first that would not
begin before it (`iterations_deadline`). An iteration that begins in time is completed, however far
the clock moves on in its read.

From this follows what a duration does to an accepted command line (`Options.rehearse_cut_short`).
The iterations that are left have not ended the watch, as only the last one can, so the summary is
that of the watchdog they have reached. None is left if the duration is not positive, because the
deadline is then not after the start, whichever way the sum is rounded.
-/

namespace Heartbeat.Watch

/-- One iteration of a watch: the clock as it begins, what is read in it unless it is interrupted,
what it shows, the watchdog after it, and what ends the watch in it if anything does. -/
structure Iteration where
  clock : Binary64
  reception : Option Reception
  shown : List Notice
  watchdog : Watchdog
  halt : Option Halt
  deriving DecidableEq

/-- The iterations from a clock reading and a watchdog on. -/
def iterations (maxAge deadline : Option Binary64) :
    List Reception → Binary64 → Watchdog → List Iteration
  | [], clock, watchdog =>
    if isOver deadline clock then [] else [⟨clock, none, [], watchdog, some .interrupted⟩]
  | reception :: rest, clock, watchdog =>
    if isOver deadline clock then []
    else match turn maxAge (clock + reception.advance) reception.arrival watchdog with
      | (shown, .error failure) =>
        [⟨clock, some reception, shown, watchdog, some (.failed failure)⟩]
      | (shown, .ok following) =>
        ⟨clock, some reception, shown, following, none⟩ ::
          iterations maxAge deadline rest (clock + reception.advance) following

/-- The watchdog after the last of the iterations, or the one before them if there are none. -/
def reached (watchdog : Watchdog) (iterations : List Iteration) : Watchdog :=
  (iterations.getLast?.map Iteration.watchdog).getD watchdog

/-- The course that consists of these iterations. If none of them ends the watch, the deadline
does. -/
def Course.ofIterations (watchdog : Watchdog) (iterations : List Iteration) : Course where
  notices := iterations.flatMap Iteration.shown
  watchdog := reached watchdog iterations
  halt := (iterations.getLast?.bind Iteration.halt).getD .deadline

variable {maxAge deadline : Option Binary64} {receptions : List Reception} {clock : Binary64}
  {watchdog : Watchdog}

theorem reached_cons (iteration : Iteration) (rest : List Iteration) :
    reached watchdog (iteration :: rest) = reached iteration.watchdog rest := by
  rw [reached, reached, List.getLast?_cons]
  cases rest.getLast? <;> rfl

/-- An iteration that does not end the watch comes before the others. -/
theorem Course.ofIterations_cons {iteration : Iteration} (h : iteration.halt = none)
    (rest : List Iteration) :
    ofIterations watchdog (iteration :: rest) =
      { ofIterations iteration.watchdog rest with
        notices := iteration.shown ++ (ofIterations iteration.watchdog rest).notices } := by
  rw [ofIterations, reached_cons, List.getLast?_cons]
  cases hlast : rest.getLast? with
  | none => simp [ofIterations, h, hlast]
  | some last => simp [ofIterations, hlast]

/-- A course consists of its iterations. -/
theorem course_eq_ofIterations (maxAge deadline : Option Binary64) (receptions : List Reception)
    (clock : Binary64) (watchdog : Watchdog) :
    course maxAge deadline receptions clock watchdog =
      .ofIterations watchdog (iterations maxAge deadline receptions clock watchdog) := by
  induction receptions generalizing clock watchdog with
  | nil =>
      rw [course, iterations]
      split <;> rfl
  | cons reception rest ih =>
      rw [course, iterations]
      split
      · rfl
      · dsimp only
        rcases turn maxAge (clock + reception.advance) reception.arrival watchdog with
          ⟨shown, failure | following⟩
        · simp [Course.ofIterations, reached]
        · dsimp only
          rw [Course.ofIterations_cons rfl, ih]

/-- A deadline takes the iterations away from the first that would not begin before it. -/
theorem iterations_deadline (maxAge : Option Binary64) (deadline : Binary64)
    (receptions : List Reception) (clock : Binary64) (watchdog : Watchdog) :
    iterations maxAge (some deadline) receptions clock watchdog =
      (iterations maxAge none receptions clock watchdog).takeWhile (·.clock < deadline) := by
  have hover : ∀ clock, isOver (some deadline) clock = !decide (clock < deadline) := fun _ => rfl
  have hgo : ∀ clock, ¬ isOver none clock = true := fun _ => nofun
  induction receptions generalizing clock watchdog with
  | nil =>
      rw [iterations, iterations, if_neg (hgo clock), hover]
      by_cases hlt : clock < deadline
      · simp [hlt]
      · simp [hlt]
  | cons reception rest ih =>
      rw [iterations, iterations, if_neg (hgo clock), hover]
      rcases turn maxAge (clock + reception.advance) reception.arrival watchdog with
        ⟨shown, failure | following⟩
      · by_cases hlt : clock < deadline
        · simp [hlt]
        · simp [hlt]
      · by_cases hlt : clock < deadline
        · simp [hlt, ih]
        · simp [hlt]

theorem iterations_of_isOver (h : isOver deadline clock = true) :
    iterations maxAge deadline receptions clock watchdog = [] := by
  cases receptions with
  | nil => rw [iterations, if_pos h]
  | cons => rw [iterations, if_pos h]

/-- Only the last iteration can end the watch. -/
theorem halt_of_mem {front back : List Iteration}
    (h : iterations maxAge deadline receptions clock watchdog = front ++ back) (hback : back ≠ [])
    {iteration : Iteration} (hmem : iteration ∈ front) : iteration.halt = none := by
  have hpair : ∀ {first only : Iteration} {front : List Iteration},
      [only] ≠ first :: front ++ back := by
    intro first only front heq
    exact hback (List.append_eq_nil_iff.mp (List.cons.inj heq).2.symm).2
  induction receptions generalizing clock watchdog front with
  | nil =>
      obtain ⟨first, front, rfl⟩ := List.exists_cons_of_ne_nil (List.ne_nil_of_mem hmem)
      rw [iterations] at h
      split at h
      · cases h
      · exact absurd h hpair
  | cons reception rest ih =>
      obtain ⟨first, front, rfl⟩ := List.exists_cons_of_ne_nil (List.ne_nil_of_mem hmem)
      rw [iterations] at h
      split at h
      · cases h
      split at h
      · exact absurd h hpair
      · obtain ⟨rfl, hrest⟩ := List.cons.inj h
        rcases List.mem_cons.mp hmem with rfl | hmem
        · rfl
        · exact ih hrest hmem

/-- The iterations read the receptions in their order, and are interrupted when there are no
more. -/
theorem map_reception_iterations (maxAge deadline : Option Binary64) (receptions : List Reception)
    (clock : Binary64) (watchdog : Watchdog) :
    (iterations maxAge deadline receptions clock watchdog).map Iteration.reception <+:
      receptions.map some ++ [none] := by
  induction receptions generalizing clock watchdog with
  | nil =>
      rw [iterations]
      split
      · exact List.nil_prefix
      · exact List.prefix_rfl
  | cons reception rest ih =>
      rw [iterations]
      split
      · exact List.nil_prefix
      split
      · exact ⟨_, rfl⟩
      · exact List.cons_prefix_cons.mpr ⟨rfl, ih _ _⟩

/-! ## The command -/

theorem written_append (lines more : List String) :
    written (lines ++ more) = written lines ++ written more := by
  rw [written, List.map_append, String.join_append]
  rfl

namespace Options

variable {options : Options} {traffic : Traffic} {port : Int} {events : List Event}

/-- The iterations of a rehearsal with these options. -/
def iterations (options : Options) (deadline : Option Binary64) (traffic : Traffic) :
    List Iteration :=
  Watch.iterations options.maxAge deadline traffic.receptions traffic.clock {}

/-- The lines that are shown until the last of the iterations is over. -/
def shownLines (options : Options) (port : Int) (iterations : List Iteration) : List String :=
  options.greeting port ::
    (iterations.flatMap Iteration.shown).map (Notice.line options.verbose)

/-- What the command comes to that performs these iterations. -/
def report (options : Options) (port : Int) (events : List Event) (iterations : List Iteration) :
    Report Failure :=
  let lines := options.shownLines port iterations
  match iterations.getLast?.bind Iteration.halt with
  | some (.failed failure) => ⟨.escape failure, written lines, "", events ++ [.closed]⟩
  | _ => ⟨.exit 0, written (lines ++ (reached {} iterations).summaryLines), "",
      events ++ [.closed]⟩

theorem watch_eq_report {deadline : Option Binary64}
    (hopen : traffic.listener.openListener options.host options.port (some readTimeout) =
      (.ok port, events))
    (hdeadline : options.duration.deadline traffic.clock = .ok deadline) :
    watch options traffic = options.report port events (options.iterations deadline traffic) := by
  rw [watch, hopen]
  simp only [hdeadline]
  rw [Options.course, course_eq_ofIterations, report, iterations]
  generalize Watch.iterations options.maxAge deadline traffic.receptions traffic.clock {} = all
  simp only [Course.ofIterations]
  cases all.getLast?.bind Iteration.halt with
  | none => rfl
  | some halt => cases halt <;> rfl

theorem report_of_halt_none {all : List Iteration} (h : ∀ iteration ∈ all, iteration.halt = none) :
    options.report port events all = ⟨.exit 0, written (options.shownLines port all ++
      (reached {} all).summaryLines), "", events ++ [.closed]⟩ := by
  have hlast : all.getLast?.bind Iteration.halt = none := by
    cases heq : all.getLast? with
    | none => rfl
    | some last => exact h last (List.mem_of_getLast? heq)
  rw [report, hlast]

/-- What is shown in the first iterations stands first in the output. -/
theorem exists_output_eq_append (options : Options) (port : Int) (events : List Event)
    (front back : List Iteration) :
    ∃ more, (options.report port events (front ++ back)).output =
      written (options.shownLines port front) ++ more := by
  have hlines : options.shownLines port (front ++ back) =
      options.shownLines port front ++
        (back.flatMap Iteration.shown).map (Notice.line options.verbose) := by
    rw [shownLines, List.flatMap_append, List.map_append]
    rfl
  rw [report, hlines]
  split
  · exact ⟨_, written_append _ _⟩
  · exact ⟨_, by rw [List.append_assoc]; exact written_append _ _⟩

variable {arguments : List String} {value : String} {duration : Binary64}

/-- A duration only cuts a watch short, wherever it is given. The iterations that are left are those
before the first that would not begin before the deadline; they read the same and show the same as
without it. If the deadline takes any away, the summary follows at once, and if it takes none away
the watch ends as it would have. -/
theorem rehearse_cut_short (hparse : Options.parse arguments = .ok options)
    (hunlimited : options.duration = .unlimited)
    (hopen : traffic.listener.openListener options.host options.port (some readTimeout) =
      (.ok port, events))
    (hvalue : Text.binary64? value = some duration) :
    let deadline := traffic.clock + duration
    let whole := options.iterations none traffic
    let cut := whole.takeWhile (·.clock < deadline)
    (rehearse arguments traffic = options.report port events whole ∧
      whole.map Iteration.reception <+: traffic.receptions.map some ++ [none]) ∧
    Options.parse (arguments ++ ["--duration=" ++ value]) =
      .ok { options with duration := .seconds duration } ∧
    ∀ limited, Options.parse limited = .ok { options with duration := .seconds duration } →
      (options.iterations (some deadline) traffic = cut ∧
        rehearse limited traffic = options.report port events cut) ∧
      (cut ≠ whole → ∃ more,
        rehearse limited traffic = ⟨.exit 0, written (options.shownLines port cut ++
          (reached {} cut).summaryLines), "", events ++ [.closed]⟩ ∧
        (rehearse arguments traffic).output = written (options.shownLines port cut) ++ more) ∧
      (cut = whole → rehearse limited traffic = rehearse arguments traffic) ∧
      (∀ iteration ∈ cut, iteration.clock < deadline) ∧
      (¬ 0 < duration → cut = []) := by
  intro deadline whole cut
  have hwhole : rehearse arguments traffic = options.report port events whole := by
    rw [rehearse, hparse]
    exact watch_eq_report hopen (by rw [hunlimited]; rfl)
  have hcut : options.iterations (some deadline) traffic = cut := iterations_deadline _ _ _ _ _
  refine ⟨⟨hwhole, map_reception_iterations _ _ _ _ _⟩, parse_append_duration hparse hvalue,
    fun limited hlimited => ?_⟩
  have hreport : rehearse limited traffic = options.report port events cut := by
    rw [rehearse, hlimited, ← hcut]
    exact watch_eq_report hopen rfl
  have happend : cut ++ whole.dropWhile (·.clock < deadline) = whole :=
    List.takeWhile_append_dropWhile
  refine ⟨⟨hcut, hreport⟩, fun hne => ?_, fun heq => ?_, fun iteration hmem => ?_, fun hpos => ?_⟩
  · obtain ⟨more, hmore⟩ := exists_output_eq_append options port events cut
      (whole.dropWhile (·.clock < deadline))
    have hback : whole.dropWhile (·.clock < deadline) ≠ [] := by
      intro hnil
      rw [hnil, List.append_nil] at happend
      exact hne happend
    refine ⟨more, ?_, by rw [hwhole, ← happend]; exact hmore⟩
    rw [hreport]
    exact report_of_halt_none fun iteration hmem => halt_of_mem happend.symm hback hmem
  · rw [hreport, hwhole, heq]
  · exact of_decide_eq_true (List.all_eq_true.mp List.all_takeWhile iteration hmem)
  · have hover : isOver (some deadline) traffic.clock = true := by
      show (!decide (traffic.clock < traffic.clock + duration)) = true
      rw [decide_eq_false (Binary64.not_lt_add hpos)]
      rfl
    rw [← hcut]
    exact iterations_of_isOver hover

/-- The first read begins before a deadline of one second and is over after it. -/
def slowTraffic : Traffic where
  receptions := [⟨2, .datagram "10.0.0.1" []⟩, ⟨0, .datagram "10.0.0.2" []⟩]

/-- What is read then is still shown, and nothing else is read. -/
theorem rehearse_cut_short_of_slow :
    let whole := iterations {} none slowTraffic
    let cut := whole.takeWhile (·.clock < slowTraffic.clock + 1)
    cut ≠ whole ∧ cut.length = 1 ∧ ∃ more,
      rehearse ["--duration=1"] slowTraffic = ⟨.exit 0, written (shownLines {} 5556 cut ++
        (reached {} cut).summaryLines), "",
        [.opened, .bound (some "0.0.0.0") 5556, .limited readTimeout] ++ [.closed]⟩ ∧
      (rehearse [] slowTraffic).output = written (shownLines {} 5556 cut) ++ more := by
  intro whole cut
  have hlength : cut.length = 1 ∧ whole.length = 3 := by decide +kernel
  have hne : cut ≠ whole := by
    intro heq
    rw [heq, hlength.2] at hlength
    cases hlength.1
  have hparse : Options.parse [] = .ok {} := rfl
  have hopen : slowTraffic.listener.openListener (some "0.0.0.0") (some 5556) (some readTimeout) =
      (.ok 5556, [.opened, .bound (some "0.0.0.0") 5556, .limited readTimeout]) := rfl
  have hvalue : Text.binary64? "1" = some 1 := by decide +kernel
  obtain ⟨-, hadded, hlimited⟩ := rehearse_cut_short hparse rfl hopen hvalue
  obtain ⟨-, hcut, -⟩ := hlimited _ hadded
  exact ⟨hne, hlength.1, hcut hne⟩

end Options

end Heartbeat.Watch
