import Heartbeat.Proofs.FirstRun
import Heartbeat.Proofs.FirstStop
import Heartbeat.Proofs.Unstopped

/-!
# Stopping only truncates

A first run is compared with the one that the same surroundings would have seen without a stop
request. The stopped run is a beginning of the other but for what ends every run, and behind its
first stop there is neither a datagram nor a pause (`firstRun_truncated`).

Only the places at which stop requests arrive matter, not how many arrive at once: two stages that
differ in nothing else (`Alike`) see the same run (`Runs.alike`).
-/

namespace Heartbeat.Sender

variable {hold : Bool} {sender final : Sender} {stage : Stage} {log : List Event}

/-! ## Whole runs -/

theorem Runs.unique {log' : List Event} {result result' : Except SenderError Nat}
    {final' : Sender} (h : Runs hold sender stage log result final)
    (h' : Runs hold sender stage log' result' final') :
    log' = log ∧ result' = result ∧ final' = final := by
  obtain ⟨hanswer, hafter⟩ := Prod.mk.inj (h'.eq.symm.trans h.eq)
  refine ⟨?_, Prod.mk.inj hanswer⟩
  rw [← stage.drop_events_after log', hafter, stage.drop_events_after]

theorem exists_runs_of_sendsAll {result : Except SenderError Unit}
    (h : SendsAll hold sender.config.count sender stage log result final) :
    ∃ whole result final, Runs hold sender stage whole result final ∧ log <+: whole := by
  cases result with
  | error error => exact ⟨_, _, _, .failed h, List.prefix_append _ _⟩
  | ok _ =>
      rcases Nat.lt_or_ge final.tally.datagrams final.config.count with hfew | hall
      · exact ⟨_, _, _, .cutShort h hfew, List.prefix_append _ _⟩
      · exact ⟨_, _, _, .complete h hall, List.prefix_append _ _⟩

theorem SendsAll.completeEvent_notMem {result : Except SenderError Unit}
    (h : SendsAll hold sender.config.count sender stage log result final) :
    completeEvent ∉ log := by
  intro hmem
  have htext : completeText ∈ Log.texts log := List.mem_filterMap.mpr ⟨completeEvent, hmem, rfl⟩
  rw [h.texts_of_whole] at htext
  exact completeText_notMem _ h.sentCount_le htext

theorem Runs.isPrefix {whole : List Event} {result result' : Except SenderError Nat}
    {final' : Sender} (h : Runs hold sender stage log result final)
    (hwhole : Runs hold sender stage.quiet whole result' final') :
    ∃ body ending, log = body ++ ending ++ [.closed] ∧
      (ending = [] ∨ ending = [completeEvent]) ∧ completeEvent ∉ body ∧ body <+: whole := by
  obtain ⟨body, loopResult, loopFinal, ending, hsend, hlog, hending⟩ := h.exists_sendsAll
  refine ⟨body, ending, hlog, hending, hsend.completeEvent_notMem, ?_⟩
  obtain ⟨body', _, _, hsend', hbody, -⟩ := hsend.quiet
  obtain ⟨whole', _, _, hwhole', hprefix⟩ := exists_runs_of_sendsAll hsend'
  rw [← (hwhole.unique hwhole').1]
  exact hbody.trans hprefix

/-- A run that meets no stop is the run without stop requests. -/
theorem Runs.quiet {result : Except SenderError Nat}
    (h : Runs hold sender stage log result final)
    (hgo : (stage.after log).stopRequested = false) :
    Runs hold sender stage.quiet log result final := by
  have hgo' : ∀ body rest : List Event, log = body ++ rest →
      (stage.after body).stopRequested = false := by
    rintro body rest rfl
    rw [Stage.after_append, Stage.stopRequested_after, Bool.or_eq_false_iff] at hgo
    exact hgo.1
  cases h with
  | failed hsend =>
      obtain ⟨log', result', final', hsend', -, hsame⟩ := hsend.quiet
      obtain ⟨rfl, rfl, rfl⟩ := hsame (hgo' _ _ rfl)
      exact .failed hsend'
  | cutShort hsend hfew =>
      obtain ⟨log', result', final', hsend', -, hsame⟩ := hsend.quiet
      obtain ⟨rfl, rfl, rfl⟩ := hsame (hgo' _ _ rfl)
      exact .cutShort hsend' hfew
  | complete hsend hall =>
      obtain ⟨log', result', final', hsend', -, hsame⟩ := hsend.quiet
      obtain ⟨rfl, rfl, rfl⟩ := hsame (hgo' _ _ rfl)
      exact .complete hsend' hall

/-- A loop that is stopped before it begins does nothing. -/
theorem SendsAll.of_stopped {remaining : Nat} {result : Except SenderError Unit}
    (h : SendsAll hold remaining sender stage log result final)
    (hstop : stage.stopRequested = true) : log = [] ∧ result = .ok () ∧ final = sender := by
  cases h with
  | finished => exact ⟨rfl, rfl, rfl⟩
  | stopped => exact ⟨rfl, rfl, rfl⟩
  | failed hgo => rw [hstop] at hgo; cases hgo
  | abandoned hgo => rw [hstop] at hgo; cases hgo
  | notPaused hgo => rw [hstop] at hgo; cases hgo
  | stoppedInPause hgo => rw [hstop] at hgo; cases hgo
  | next hgo => rw [hstop] at hgo; cases hgo

theorem Runs.of_stopped {result : Except SenderError Nat}
    (h : Runs hold sender stage log result final) (hnone : sender.tally.datagrams = 0)
    (hstop : stage.stopRequested = true) :
    log = (if sender.config.count = 0 then [completeEvent] else []) ++ [.closed] := by
  cases h with
  | failed hsend =>
      obtain ⟨-, hresult, -⟩ := hsend.of_stopped hstop
      cases hresult
  | cutShort hsend hfew =>
      obtain ⟨rfl, -, rfl⟩ := hsend.of_stopped hstop
      rw [if_neg (by omega)]
  | complete hsend hall =>
      obtain ⟨rfl, -, rfl⟩ := hsend.of_stopped hstop
      rw [if_pos (by omega)]
      rfl

/-- What a run leaves behind its first stop. -/
def afterStop (count : Nat) (log : List Event) (event : Event) : List Event :=
  (if event.isSent then [.printed (progressText count (Log.sentCount log - 1))] else []) ++
    (if Log.sentCount log = count then [completeEvent] else []) ++ [.closed]

theorem Runs.firstStop {result : Except SenderError Nat}
    (h : Runs hold sender stage log result final) (hnone : sender.tally.datagrams = 0)
    {event : Event} {after : List Event}
    (hstop : stage.script.firstStop? log = some (event, after)) :
    after = afterStop sender.config.count log event := by
  -- the first stop lies in the loop, because nothing behind the loop lets one in
  have hloop : ∀ body rest : List Event, log = body ++ rest →
      (∀ script : Script, script.firstStop? rest = none) →
      ∃ before, stage.script.firstStop? body = some (event, before) ∧ after = before ++ rest ∧
        (stage.after body).stopRequested = true := by
    rintro body rest rfl hrest
    rw [Script.firstStop?_append, hrest] at hstop
    cases hbody : stage.script.firstStop? body with
    | none =>
        rw [hbody] at hstop
        cases hstop
    | some found =>
        obtain ⟨event', before⟩ := found
        rw [hbody] at hstop
        cases hstop
        refine ⟨before, rfl, rfl, ?_⟩
        cases hgo : (stage.after body).stopRequested with
        | true => rfl
        | false =>
            rw [Stage.firstStop?_of_go hgo] at hbody
            cases hbody
  rw [afterStop]
  cases h with
  | @failed body _ _ hsend =>
      obtain ⟨before, hbefore, rfl, hlast⟩ := hloop _ _ rfl fun _ => rfl
      have hcount : Log.sentCount (body ++ [.closed]) = Log.sentCount body :=
        Log.sentCount_append _ _
      rw [hcount, if_neg (Nat.ne_of_lt (hsend.sentCount_lt_of_error hlast)),
        hsend.firstStop (Nat.le_refl _) hbefore, Nat.sub_self, Nat.zero_add, List.append_nil]
  | @cutShort body _ hsend hfew =>
      obtain ⟨before, hbefore, rfl, -⟩ := hloop _ _ rfl fun _ => rfl
      have hcount : Log.sentCount (body ++ [.closed]) = Log.sentCount body :=
        Log.sentCount_append _ _
      rw [hsend.keeps.config, hsend.keeps.datagrams, hnone, Nat.zero_add] at hfew
      rw [hcount, if_neg (Nat.ne_of_lt hfew), hsend.firstStop (Nat.le_refl _) hbefore,
        Nat.sub_self, Nat.zero_add, List.append_nil]
  | @complete body _ hsend hall =>
      obtain ⟨before, hbefore, rfl, -⟩ := hloop _ _ rfl fun _ => rfl
      have hcount : Log.sentCount (body ++ [completeEvent, .closed]) = Log.sentCount body :=
        Log.sentCount_append _ _
      rw [hsend.keeps.config, hsend.keeps.datagrams, hnone, Nat.zero_add] at hall
      rw [hcount, if_pos (Nat.le_antisymm hsend.sentCount_le hall),
        hsend.firstStop (Nat.le_refl _) hbefore, Nat.sub_self, Nat.zero_add, List.append_assoc]
      rfl

/-! ## Only the places of stop requests matter -/

/-- Two stages that differ at most in how many stop requests come at once. -/
structure Alike (first second : Stage) : Prop where
  script : first.script.merged = second.script.merged
  stopRequested : first.stopRequested = second.stopRequested

theorem Alike.next {first second : Stage} (h : Alike first second) (event : Event) :
    Alike (first.next event) (second.next event) where
  script := by
    have hnext := congrArg (Script.next · event) h.script
    simp only [Script.merged, Script.next_mapStops] at hnext
    exact hnext
  stopRequested := by
    have hstops := congrArg (Script.stopsDuring · event) h.script
    simp only [Script.merged] at hstops
    rw [Script.stopsDuring_mapStops (by rfl), Script.stopsDuring_mapStops (by rfl)] at hstops
    have hiff : 0 < first.script.stopsDuring event ↔ 0 < second.script.stopsDuring event := by
      omega
    show (first.stopRequested || decide _) = (second.stopRequested || decide _)
    rw [h.stopRequested, decide_eq_decide.mpr hiff]

theorem Alike.after {first second : Stage} (h : Alike first second) (log : List Event) :
    Alike (first.after log) (second.after log) := by
  induction log generalizing first second with
  | nil => exact h
  | cons event log ih => exact ih (h.next event)

theorem Alike.outcome {first second : Stage} (h : Alike first second) :
    second.outcome = first.outcome :=
  calc second.outcome = Stage.outcome { second with script := second.script.merged } :=
        (Stage.outcome_mapStops _ second).symm
    _ = Stage.outcome { first with script := first.script.merged } := by rw [← h.script]; rfl
    _ = first.outcome := Stage.outcome_mapStops _ first

theorem Alike.waitError? {first second : Stage} (h : Alike first second) (sender : Sender)
    (delay : Binary64) :
    sender.waitError? second.script delay = sender.waitError? first.script delay := by
  have hmerged : first.script.merged.waitLimit = second.script.merged.waitLimit :=
    congrArg Script.waitLimit h.script
  have hlimit : first.script.waitLimit = second.script.waitLimit := hmerged
  rw [Sender.waitError?, Sender.waitError?, hlimit]

variable {other : Stage}

theorem Sleeps.alike {delay : Binary64} {result : Except SenderError Bool}
    (h : Sleeps sender delay stage log result) (halike : Alike stage other) :
    Sleeps sender delay other log result := by
  have hstop := halike.stopRequested
  cases h with
  | pending hpending => exact .pending (hstop ▸ hpending)
  | failed hgo herror =>
      exact .failed (hstop ▸ hgo) ((halike.waitError? sender delay).trans herror)
  | waited hgo herror hstopping =>
      exact .waited (hstop ▸ hgo) ((halike.waitError? sender delay).trans herror)
        ((halike.after _).stopRequested ▸ hstopping)

theorem Pauses.alike {delay : Binary64} {result : Except SenderError Unit}
    (h : Pauses sender delay stage hold log result) (halike : Alike stage other) :
    Pauses sender delay other hold log result := by
  cases h with
  | heldBack => exact .heldBack
  | failed hsleep => exact .failed (hsleep.alike halike)
  | slept hsleep => exact .slept (hsleep.alike halike)

theorem Sends.alike {delay : Binary64} {retries : Nat}
    {result : Except SenderError (Option Int)}
    (h : Sends hold delay retries sender stage log result final) (halike : Alike stage other) :
    Sends hold delay retries sender other log result final := by
  induction h generalizing other with
  | delivered hout => exact .delivered (halike.outcome.trans hout)
  | exhausted hout => exact .exhausted (halike.outcome.trans hout)
  | abandoned hout hstop =>
      exact .abandoned (halike.outcome.trans hout) ((halike.next _).stopRequested ▸ hstop)
  | notPaused hout hgo hpause =>
      exact .notPaused (halike.outcome.trans hout) ((halike.next _).stopRequested ▸ hgo)
        (hpause.alike (halike.next _))
  | abandonedInPause hout hgo hpause hstop =>
      exact .abandonedInPause (halike.outcome.trans hout) ((halike.next _).stopRequested ▸ hgo)
        (hpause.alike (halike.next _)) ((halike.after _).stopRequested ▸ hstop)
  | retried hout hgo hpause hgo' _ ih =>
      exact .retried (halike.outcome.trans hout) ((halike.next _).stopRequested ▸ hgo)
        (hpause.alike (halike.next _)) ((halike.after _).stopRequested ▸ hgo')
        (ih (halike.after _))

theorem SendsAll.alike {remaining : Nat} {result : Except SenderError Unit}
    (h : SendsAll hold remaining sender stage log result final) (halike : Alike stage other) :
    SendsAll hold remaining sender other log result final := by
  induction h generalizing other with
  | finished => exact .finished
  | stopped hstop => exact .stopped (halike.stopRequested ▸ hstop)
  | failed hgo hsend => exact .failed (halike.stopRequested ▸ hgo) (hsend.alike halike)
  | abandoned hgo hsend => exact .abandoned (halike.stopRequested ▸ hgo) (hsend.alike halike)
  | notPaused hgo hsend hsleep =>
      exact .notPaused (halike.stopRequested ▸ hgo) (hsend.alike halike)
        (hsleep.alike (halike.after _))
  | stoppedInPause hgo hsend hsleep =>
      exact .stoppedInPause (halike.stopRequested ▸ hgo) (hsend.alike halike)
        (hsleep.alike (halike.after _))
  | next hgo hsend hsleep _ ih =>
      exact .next (halike.stopRequested ▸ hgo) (hsend.alike halike)
        (hsleep.alike (halike.after _)) (ih (halike.after _))

theorem Runs.alike {result : Except SenderError Nat}
    (h : Runs hold sender stage log result final) (halike : Alike stage other) :
    Runs hold sender other log result final := by
  cases h with
  | failed hsend => exact .failed (hsend.alike halike)
  | cutShort hsend hfew => exact .cutShort (hsend.alike halike) hfew
  | complete hsend hall => exact .complete (hsend.alike halike) hall

/-! ## First runs -/

theorem openingStage_quiet (given : Bool) (script : Script) (stops : Nat) :
    (openingStage given script stops).quiet = openingStage given script.unstopped 0 := by
  cases given <;> rfl

theorem openingStage_alike (given : Bool) {script other : Script} {stops others : Nat}
    (hscript : script.merged = other.merged) (hstops : min stops 1 = min others 1) :
    Alike (openingStage given script stops) (openingStage given other others) where
  script := by rw [script_openingStage, script_openingStage, hscript]
  stopRequested := by
    rw [stopRequested_openingStage, stopRequested_openingStage]
    exact decide_eq_decide.mpr (by omega)

/-- What a stopped run has in common with the one that sees no stop request. -/
structure Truncates (count : Nat) (script : Script) (stops : Nat) (stopped whole : Act) :
    Prop where
  /-- Without what ends it, the stopped run is a beginning of the whole one. -/
  isPrefix : ∃ body ending, stopped.events = body ++ ending ++ [.closed] ∧
    (ending = [] ∨ ending = [completeEvent]) ∧ completeEvent ∉ body ∧ body <+: whole.events
  /-- A run that is stopped before it begins only ends. -/
  beforehand : 0 < stops →
    stopped.events = (if count = 0 then [completeEvent] else []) ++ [.closed]
  /-- Behind the first stop there is no datagram, refusal or pause. -/
  firstStop : stops = 0 → ∀ event after, script.firstStop? stopped.events = some (event, after) →
    after = afterStop count stopped.events event
  /-- Without a stop nothing differs. -/
  untouched : stopped.stopRequested = false → stopped = whole

/-- Stopping a first run, wherever the stop requests come, only cuts it short. How many come at
once makes no difference: every script with stop requests at the same places leads to the same
run. -/
theorem firstRun_truncated (hold given : Bool) (config : Config) (policy : RetryPolicy)
    (script : Script) (stops : Nat) (destination : Endpoint)
    (hready : Ready given config script destination) :
    ∃ stopped whole, firstRun hold given config policy script stops = some stopped ∧
      firstRun hold given config policy script.unstopped 0 = some whole ∧
      Truncates config.count script stops stopped whole ∧
      ∀ (other : Script) (others : Nat), other.merged = script.merged → min others 1 = min stops 1 →
        firstRun hold given config policy other others = some stopped := by
  obtain ⟨log, result, final, hrun⟩ := exists_runs hold { config, policy, destination }
    (openingStage given script stops)
  obtain ⟨whole, result', final', hwhole⟩ := exists_runs hold { config, policy, destination }
    (openingStage given script stops).quiet
  have hready' : Ready given config script.unstopped destination := ⟨hready.1, hready.2, hready.3⟩
  have hfirst := firstRun_of_runs hready' (openingStage_quiet given script stops ▸ hwhole)
  refine ⟨_, _, firstRun_of_runs hready hrun, hfirst, ⟨?_, ?_, ?_, ?_⟩, ?_⟩
  · exact hrun.isPrefix hwhole
  · intro hpos
    refine hrun.of_stopped rfl ?_
    rw [stopRequested_openingStage, decide_eq_true hpos]
  · intro _ event after hstop
    rw [← script_openingStage given script stops] at hstop
    exact hrun.firstStop rfl hstop
  · intro (hgo : ((openingStage given script stops).after log).stopRequested = false)
    obtain ⟨rfl, rfl, rfl⟩ := (hrun.quiet hgo).unique hwhole
    rw [runAct, runAct, ← openingStage_quiet given script stops,
      Stage.stopRequested_quiet_after, hgo]
  · intro other others hscript hstops
    have halike := openingStage_alike given hscript.symm hstops.symm
    have hfaults : other.merged.socketFault = script.merged.socketFault ∧
        other.merged.wakePairFault = script.merged.wakePairFault := by
      rw [hscript]
      exact ⟨rfl, rfl⟩
    have hready'' : Ready given config other destination := by
      refine ⟨hready.resolved, ?_, hfaults.2.trans hready.wakePair⟩
      rw [← hready.socket, socketFault?, socketFault?]
      exact congrArg (if given then none else ·) hfaults.1
    rw [firstRun_of_runs hready'' (hrun.alike halike), runAct, runAct,
      (halike.after log).stopRequested]

/-- Two stop requests meet the second of ten datagrams. -/
theorem firstRun_truncated_of_standard :
    ∃ destination, Ready false Config.standard { sends := [⟨.whole, 0⟩, ⟨.whole, 2⟩] }
      destination ∧
    ∃ stopped whole,
      firstRun false false Config.standard {} { sends := [⟨.whole, 0⟩, ⟨.whole, 2⟩] } 0 =
        some stopped ∧
      firstRun false false Config.standard {}
        (Script.unstopped { sends := [⟨.whole, 0⟩, ⟨.whole, 2⟩] }) 0 = some whole ∧
      Truncates Config.standard.count { sends := [⟨.whole, 0⟩, ⟨.whole, 2⟩] } 0 stopped whole ∧
      ∀ (other : Script) (others : Nat),
        other.merged = Script.merged { sends := [⟨.whole, 0⟩, ⟨.whole, 2⟩] } →
        min others 1 = min 0 1 →
        firstRun false false Config.standard {} other others = some stopped := by
  have hready : Ready false Config.standard { sends := [⟨.whole, 0⟩, ⟨.whole, 2⟩] }
      ⟨"127.0.0.1", 5556⟩ := ⟨by decide +kernel, rfl, rfl⟩
  exact ⟨_, hready, firstRun_truncated false false Config.standard {} _ 0 _ hready⟩

end Heartbeat.Sender
