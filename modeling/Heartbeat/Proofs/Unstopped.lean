import Heartbeat.Proofs.RunLog

/-!
# Runs without stop requests

What the surroundings would have done without a stop request is a script of its own
(`Script.unstopped`). A stage goes over to it with all stop requests taken out (`Stage.quiet`),
and a run that starts there goes through the same events as long as no stop has been seen. So the
log of the stopped run is a beginning of that of the quiet one, and where no stop came at all the
two are the same (`Sends.quiet`, `SendsAll.quiet`).
-/

namespace Heartbeat

namespace Script

/-- The script with every number of stop requests changed. -/
def mapStops (change : Nat → Nat) (script : Script) : Script :=
  { script with
    sends := script.sends.map fun cue => { cue with stops := change cue.stops }
    waits := script.waits.map change
    holds := script.holds.map change }

/-- The script without its stop requests. -/
def unstopped (script : Script) : Script := script.mapStops fun _ => 0

/-- The script with one stop request wherever there are some. -/
def merged (script : Script) : Script := script.mapStops (min · 1)

theorem next_mapStops (change : Nat → Nat) (script : Script) (event : Event) :
    (script.mapStops change).next event = (script.next event).mapStops change := by
  cases event <;> simp [next, mapStops]

theorem stopsDuring_mapStops {change : Nat → Nat} (hzero : change 0 = 0) (script : Script)
    (event : Event) :
    (script.mapStops change).stopsDuring event = change (script.stopsDuring event) := by
  cases event with
  | sent | refused => cases hsends : script.sends <;> simp [stopsDuring, mapStops, hsends, hzero]
  | waited => cases hwaits : script.waits <;> simp [stopsDuring, mapStops, hwaits, hzero]
  | heldBack => cases hholds : script.holds <;> simp [stopsDuring, mapStops, hholds, hzero]
  | _ => exact hzero.symm

end Script

namespace Stage

theorem outcome_mapStops (change : Nat → Nat) (stage : Stage) :
    { stage with script := stage.script.mapStops change }.outcome = stage.outcome := by
  cases hsends : stage.script.sends <;> simp [outcome, Script.mapStops, hsends]

/-- The stage without stop requests, past or to come. -/
def quiet (stage : Stage) : Stage :=
  { stage with script := stage.script.unstopped, stopRequested := false }

theorem quiet_next (stage : Stage) (event : Event) :
    (stage.next event).quiet = stage.quiet.next event := by
  have hstops : stage.script.unstopped.stopsDuring event = 0 :=
    Script.stopsDuring_mapStops rfl stage.script event
  have hscript : stage.script.unstopped.next event = (stage.script.next event).unstopped :=
    Script.next_mapStops _ _ _
  simp [quiet, next, hstops, hscript]

theorem quiet_after (stage : Stage) (log : List Event) :
    (stage.after log).quiet = stage.quiet.after log := by
  induction log generalizing stage with
  | nil => rfl
  | cons event log ih => rw [after_cons, ih, quiet_next, after_cons]

theorem outcome_quiet (stage : Stage) : stage.quiet.outcome = stage.outcome :=
  outcome_mapStops _ stage

theorem stopRequested_quiet_after (stage : Stage) (log : List Event) :
    (stage.quiet.after log).stopRequested = false := by
  rw [← quiet_after]
  rfl

end Stage

namespace Sender

variable {hold : Bool} {sender final : Sender} {stage : Stage} {log : List Event}

/-! Each judgment goes over to the quiet stage, up to the first stop. What is left open is completed
by the fact that some rule always applies. -/

/-- A loop goes on from any wait behind a datagram that went out. -/
theorem exists_sendsAll_of_sleeps {remaining : Nat} {sent : Sender} {pause : List Event}
    {bytes : Int} {pausing : Except SenderError Bool} (hgo : stage.stopRequested = false)
    (hsend : Sends hold sender.policy.backoff sender.policy.limit sender stage log
      (.ok (some bytes)) sent)
    (hsleep : Sleeps (sent.countSent bytes) sent.config.interval
      (stage.after (log ++ [sent.progressEvent remaining])) pause pausing) :
    ∃ whole result final, SendsAll hold (remaining + 1) sender stage whole result final ∧
      log ++ [sent.progressEvent remaining] ++ pause <+: whole := by
  cases pausing with
  | error error => exact ⟨_, _, _, .notPaused hgo hsend hsleep, List.prefix_rfl⟩
  | ok stopping =>
      cases stopping with
      | true => exact ⟨_, _, _, .stoppedInPause hgo hsend hsleep, List.prefix_rfl⟩
      | false =>
          obtain ⟨rest, result, final, hrest⟩ := exists_sendsAll hold remaining
            (sent.countSent bytes)
            (stage.after (log ++ [sent.progressEvent remaining] ++ pause))
          exact ⟨_, _, _, .next hgo hsend hsleep hrest, List.prefix_append _ _⟩

/-- A loop goes on from any attempts for its first datagram. -/
theorem exists_sendsAll_of_sends {remaining : Nat} {sent : Sender}
    {result : Except SenderError (Option Int)} (hgo : stage.stopRequested = false)
    (hsend : Sends hold sender.policy.backoff sender.policy.limit sender stage log result sent) :
    ∃ whole result final, SendsAll hold (remaining + 1) sender stage whole result final ∧
      log <+: whole := by
  cases result with
  | error error => exact ⟨_, _, _, .failed hgo hsend, List.prefix_rfl⟩
  | ok answer =>
      cases answer with
      | none => exact ⟨_, _, _, .abandoned hgo hsend, List.prefix_rfl⟩
      | some bytes =>
          obtain ⟨pause, pausing, hsleep⟩ := exists_sleeps (sent.countSent bytes)
            sent.config.interval (stage.after (log ++ [sent.progressEvent remaining]))
          obtain ⟨whole, result, final, hall, hprefix⟩ :=
            exists_sendsAll_of_sleeps hgo hsend hsleep
          rw [List.append_assoc] at hprefix
          exact ⟨whole, result, final, hall, (List.prefix_append _ _).trans hprefix⟩

theorem Sleeps.quiet {delay : Binary64} {result : Except SenderError Bool}
    (h : Sleeps sender delay stage log result) :
    ∃ log' result', Sleeps sender delay stage.quiet log' result' ∧ log <+: log' ∧
      ((stage.after log).stopRequested = false → log' = log ∧ result' = result) := by
  cases h with
  | pending hstop =>
      obtain ⟨log', result', hsleep⟩ := exists_sleeps sender delay stage.quiet
      refine ⟨log', result', hsleep, List.nil_prefix, ?_⟩
      intro hgo
      rw [Stage.after_nil, hstop] at hgo
      cases hgo
  | failed hgo herror =>
      exact ⟨_, _, .failed rfl herror, List.prefix_rfl, fun _ => ⟨rfl, rfl⟩⟩
  | waited hgo herror hstopping =>
      refine ⟨_, _, .waited rfl herror (stage.stopRequested_quiet_after _), List.prefix_rfl, ?_⟩
      intro hgo'
      rw [hstopping] at hgo'
      exact ⟨rfl, congrArg Except.ok hgo'.symm⟩

/-- Whether a stop arrives during the pause before a retry does not show in the pause. -/
theorem Pauses.quiet {delay : Binary64} {result : Except SenderError Unit}
    (h : Pauses sender delay stage hold log result) (hgo : stage.stopRequested = false) :
    Pauses sender delay stage.quiet hold log result := by
  cases h with
  | heldBack => exact .heldBack
  | failed hsleep =>
      cases hsleep with
      | failed _ herror => exact .failed (.failed rfl herror)
  | slept hsleep =>
      cases hsleep with
      | pending hstop =>
          rw [hstop] at hgo
          cases hgo
      | waited _ herror _ => exact .slept (.waited rfl herror rfl)

theorem exists_sends_of_paused {delay : Binary64} {retries : Nat} {fault : Fault}
    {pause : List Event} (hout : stage.outcome = .error fault)
    (hpause : Pauses sender.countFailure.countRetry delay
      (stage.quiet.next sender.refusedEvent) hold pause (.ok ())) :
    ∃ whole result final, Sends hold delay (retries + 1) sender stage.quiet whole result final ∧
      sender.refusedEvent :: pause <+: whole := by
  obtain ⟨rest, result, final, hrest⟩ := exists_sends hold (delay * sender.policy.factor) retries
    sender.countFailure.countRetry (stage.quiet.after (sender.refusedEvent :: pause))
  exact ⟨_, _, _, .retried (stage.outcome_quiet.trans hout) (stage.stopRequested_quiet_after [_])
    hpause (stage.stopRequested_quiet_after _) hrest, List.prefix_append _ _⟩

theorem Sends.quiet {delay : Binary64} {retries : Nat}
    {result : Except SenderError (Option Int)}
    (h : Sends hold delay retries sender stage log result final) :
    ∃ log' result' final', Sends hold delay retries sender stage.quiet log' result' final' ∧
      log <+: log' ∧ (result ≠ .ok none → log' = log ∧ result' = result ∧ final' = final) := by
  induction h with
  | delivered hout =>
      exact ⟨_, _, _, .delivered ((Stage.outcome_quiet _).trans hout), List.prefix_rfl,
        fun _ => ⟨rfl, rfl, rfl⟩⟩
  | exhausted hout =>
      exact ⟨_, _, _, .exhausted ((Stage.outcome_quiet _).trans hout), List.prefix_rfl,
        fun _ => ⟨rfl, rfl, rfl⟩⟩
  | @abandoned delay retries sender stage fault hout hstop =>
      -- the quiet run goes on to pause, whatever comes of that
      obtain ⟨pause, result, hpause⟩ := exists_pauses hold sender.countFailure.countRetry delay
        (stage.quiet.next sender.refusedEvent)
      cases result with
      | error error =>
          exact ⟨_, _, _, .notPaused (stage.outcome_quiet.trans hout)
            (stage.stopRequested_quiet_after [_]) hpause, List.prefix_append [_] _,
            fun hne => absurd rfl hne⟩
      | ok _ =>
          obtain ⟨whole, result, final, hsend, hprefix⟩ := exists_sends_of_paused hout hpause
          exact ⟨_, _, _, hsend, (List.prefix_append [_] _).trans hprefix,
            fun hne => absurd rfl hne⟩
  | notPaused hout hgo hpause =>
      have hquiet := hpause.quiet hgo
      rw [Stage.quiet_next] at hquiet
      exact ⟨_, _, _, .notPaused ((Stage.outcome_quiet _).trans hout)
        (Stage.stopRequested_quiet_after _ [_]) hquiet, List.prefix_rfl, fun _ => ⟨rfl, rfl, rfl⟩⟩
  | abandonedInPause hout hgo hpause hstop =>
      have hquiet := hpause.quiet hgo
      rw [Stage.quiet_next] at hquiet
      obtain ⟨whole, result, final, hsend, hprefix⟩ := exists_sends_of_paused hout hquiet
      exact ⟨_, _, _, hsend, hprefix, fun hne => absurd rfl hne⟩
  | retried hout hgo hpause hgo' hrest ih =>
      have hquiet := hpause.quiet hgo
      rw [Stage.quiet_next] at hquiet
      obtain ⟨log', result', final', hsend, hprefix, hsame⟩ := ih
      rw [Stage.quiet_after] at hsend
      refine ⟨_, _, _, .retried ((Stage.outcome_quiet _).trans hout)
        (Stage.stopRequested_quiet_after _ [_]) hquiet (Stage.stopRequested_quiet_after _ _) hsend,
        (List.prefix_append_right_inj _).mpr hprefix, ?_⟩
      intro hne
      obtain ⟨rfl, rfl, rfl⟩ := hsame hne
      exact ⟨rfl, rfl, rfl⟩

/-- Attempts that are not given up at a stop request do not show the stop requests. -/
theorem Sends.quiet_of_ne {delay : Binary64} {retries : Nat}
    {result : Except SenderError (Option Int)}
    (h : Sends hold delay retries sender stage log result final) (hne : result ≠ .ok none) :
    Sends hold delay retries sender stage.quiet log result final := by
  obtain ⟨log', result', final', hsend, -, hsame⟩ := h.quiet
  obtain ⟨rfl, rfl, rfl⟩ := hsame hne
  exact hsend

theorem SendsAll.quiet {remaining : Nat} {result : Except SenderError Unit}
    (h : SendsAll hold remaining sender stage log result final) :
    ∃ log' result' final', SendsAll hold remaining sender stage.quiet log' result' final' ∧
      log <+: log' ∧ ((stage.after log).stopRequested = false →
        log' = log ∧ result' = result ∧ final' = final) := by
  induction h with
  | finished => exact ⟨_, _, _, .finished, List.prefix_rfl, fun _ => ⟨rfl, rfl, rfl⟩⟩
  | @stopped remaining sender stage hstop =>
      obtain ⟨log', result', final', hall⟩ :=
        exists_sendsAll hold (remaining + 1) sender stage.quiet
      refine ⟨log', result', final', hall, List.nil_prefix, ?_⟩
      intro hgo
      rw [Stage.after_nil, hstop] at hgo
      cases hgo
  | failed hgo hsend =>
      exact ⟨_, _, _, .failed rfl (hsend.quiet_of_ne (by simp)), List.prefix_rfl,
        fun _ => ⟨rfl, rfl, rfl⟩⟩
  | abandoned hgo hsend =>
      obtain ⟨log', result', final', hsend', hprefix, -⟩ := hsend.quiet
      obtain ⟨whole, result, final, hall, hprefix'⟩ := exists_sendsAll_of_sends rfl hsend'
      refine ⟨whole, result, final, hall, hprefix.trans hprefix', ?_⟩
      intro hgo
      rw [hsend.stop_of_none] at hgo
      cases hgo
  | notPaused hgo hsend hsleep =>
      cases hsleep with
      | failed _ herror =>
          refine ⟨_, _, _, .notPaused rfl (hsend.quiet_of_ne (by simp)) ?_, List.prefix_rfl,
            fun _ => ⟨rfl, rfl, rfl⟩⟩
          rw [← Stage.quiet_after]
          exact .failed rfl herror
  | stoppedInPause hgo hsend hsleep =>
      -- the quiet run waits at least as long, and goes on from there
      have hsend' := hsend.quiet_of_ne (by simp)
      obtain ⟨pause', pausing', hsleep', hpause, -⟩ := hsleep.quiet
      rw [Stage.quiet_after] at hsleep'
      obtain ⟨whole, result, final, hall, hprefix⟩ :=
        exists_sendsAll_of_sleeps rfl hsend' hsleep'
      refine ⟨whole, result, final, hall,
        ((List.prefix_append_right_inj _).mpr hpause).trans hprefix, ?_⟩
      intro hgo
      rw [Stage.after_append, hsleep.stop_eq] at hgo
      cases hgo
  | next hgo hsend hsleep hrest ih =>
      have hsend' := hsend.quiet_of_ne (by simp)
      obtain ⟨pause', pausing', hsleep', -, hsame'⟩ := hsleep.quiet
      obtain ⟨rfl, rfl⟩ := hsame' hsleep.stop_eq
      rw [Stage.quiet_after] at hsleep'
      obtain ⟨rest', result', final', hrest', hprefix, hsame''⟩ := ih
      rw [Stage.quiet_after] at hrest'
      refine ⟨_, _, _, .next rfl hsend' hsleep' hrest',
        (List.prefix_append_right_inj _).mpr hprefix, ?_⟩
      intro hgo
      rw [Stage.after_append] at hgo
      obtain ⟨rfl, rfl, rfl⟩ := hsame'' hgo
      exact ⟨rfl, rfl, rfl⟩

end Sender

end Heartbeat
