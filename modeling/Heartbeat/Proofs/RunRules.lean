import Heartbeat.Proofs.Log

/-!
# The rules of a run

What a sender can do in a rehearsal, as a judgment with one rule for each way: a pause, the
attempts for one datagram, the datagrams of a run, and the run. A rule names the log it leaves,
the answer, and the sender afterwards; the stage afterwards is the one that the log leads to.

The judgments are sound, in that the operation does what a rule says (`Sleeps.eq` and its
companions), and complete, in that some rule always applies (`exists_sleeps` and its companions).
So a theorem about runs is an induction over the rules and has no operation to open.
-/

namespace Heartbeat

/-! ## The surroundings of a rehearsal, applied to a stage -/

theorem bind_apply {α β : Type} (first : StateM Stage α) (rest : α → StateM Stage β)
    (stage : Stage) : (first >>= rest) stage = rest (first stage).1 (first stage).2 := rfl

theorem stopRequested_apply (hold : Bool) (stage : Stage) :
    (rehearsal hold).stopRequested stage = (stage.stopRequested, stage) := rfl

theorem refusesWait_apply (hold : Bool) (delay : Binary64) (stage : Stage) :
    (rehearsal hold).refusesWait delay stage =
      (decide (stage.script.waitLimit ≤ delay), stage) := rfl

theorem print_apply (hold : Bool) (stage : Stage) (text : String) :
    (rehearsal hold).print text stage = ((), stage.next (.printed text)) := by
  simp [rehearsal, Stage.next, Script.next, Script.stopsDuring]
  rfl

theorem complain_apply (hold : Bool) (stage : Stage) (text : String) :
    (rehearsal hold).complain text stage = ((), stage.next (.complained text)) := by
  simp [rehearsal, Stage.next, Script.next, Script.stopsDuring]
  rfl

theorem close_apply (hold : Bool) (stage : Stage) :
    (rehearsal hold).close stage = ((), stage.next .closed) := by
  simp [rehearsal, Stage.next, Script.next, Script.stopsDuring]
  rfl

namespace Sender

/-- The log of a wait that takes place. Of a wait for no time, or for a time that is not a
number, nothing is seen. -/
def waitLog (delay : Binary64) : List Event := if 0 < delay then [.waited delay] else []

/-- The error that a wait ends with before it begins, if it does. -/
def waitError? (sender : Sender) (script : Script) (delay : Binary64) : Option SenderError :=
  if 0 < delay then
    if script.waitLimit ≤ delay then some .waitTooLong
    else if sender.closed then some .closed
    else none
  else none

/-- Whether a wait fails does not depend on when it begins. -/
theorem waitError?_after (sender : Sender) (stage : Stage) (log : List Event)
    (delay : Binary64) :
    sender.waitError? (stage.after log).script delay = sender.waitError? stage.script delay := by
  rw [waitError?, waitError?, Stage.script_after, Script.waitLimit_after]

/-- A datagram that goes out to where the sender sends to. -/
def sentEvent (sender : Sender) (bytes : Int) : Event := .sent heartbeat sender.destination bytes

/-- A datagram that the network refuses. -/
def refusedEvent (sender : Sender) : Event := .refused heartbeat sender.destination

theorem transmit_apply (hold : Bool) (sender : Sender) (stage : Stage) :
    (rehearsal hold).transmit heartbeat sender.destination stage =
      match stage.outcome with
      | .ok bytes => (.ok bytes, stage.next (sender.sentEvent bytes))
      | .error fault => (.error fault, stage.next sender.refusedEvent) :=
  stage.transmit_heartbeat sender.destination

/-- The progress line of the datagram at a position, as it is written. -/
def progressText (count index : Nat) : String := Progress.line index count ++ "\n"

/-- The line of a complete run, as it is written. -/
def completeText : String := Progress.completeLine ++ "\n"

/-- The progress line of a datagram that has `remaining` others behind it. -/
def progressEvent (sender : Sender) (remaining : Nat) : Event :=
  .printed (progressText sender.config.count (sender.config.count - (remaining + 1)))

@[simp] theorem countSent_config (sender : Sender) (bytes : Int) :
    (sender.countSent bytes).config = sender.config := rfl

/-- The line of a complete run. -/
def completeEvent : Event := .printed completeText

/-! ## Setting up -/

theorem openSocket_apply (hold : Bool) (stage : Stage) :
    (rehearsal hold).openSocket stage =
      match stage.script.socketFault with
      | some fault => (.error fault, stage)
      | none => (.ok (), stage.next .opened) := by
  simp only [rehearsal, Stage.openSocket]
  cases stage.script.socketFault with
  | some fault => rfl
  | none => simp [Stage.log, Stage.next, Script.next, Script.stopsDuring]

theorem openWakePair_apply (hold : Bool) (stage : Stage) :
    (rehearsal hold).openWakePair stage =
      match stage.script.wakePairFault with
      | some fault => (.error fault, stage)
      | none => (.ok (), stage) := rfl

/-- The log of getting the socket, which is seen only of a socket that is not given. -/
def socketLog (given : Bool) : List Event := if given then [] else [.opened]

/-- The fault of getting the socket. -/
def socketFault? (given : Bool) (script : Script) : Option Fault :=
  if given then none else script.socketFault

theorem create_apply (hold given : Bool) (config : Config) (policy : RetryPolicy)
    (stage : Stage) :
    create (rehearsal hold) config policy given stage =
      match Endpoint.resolve? config.server config.port with
      | none => (.error .unresolved, stage)
      | some destination =>
        match socketFault? given stage.script with
        | some fault => (.error (.noSocket fault), stage)
        | none =>
          match stage.script.wakePairFault with
          | some fault =>
            (.error (.noWakePair fault), stage.after (socketLog given ++ [.closed]))
          | none => (.ok { config, policy, destination }, stage.after (socketLog given)) := by
  rw [create]
  cases Endpoint.resolve? config.server config.port with
  | none => rfl
  | some destination =>
      -- a socket that is given is there before the fault of opening one is looked at
      have hsocket : (if given = true then (pure (.ok ()) : StateM Stage (Except Fault Unit))
          else (rehearsal hold).openSocket) stage =
          match socketFault? given stage.script with
          | some fault => (.error fault, stage)
          | none => (.ok (), stage.after (socketLog given)) := by
        cases given with
        | true => rfl
        | false => exact openSocket_apply hold stage
      simp only []
      rw [bind_apply, hsocket]
      cases hfault : socketFault? given stage.script with
      | some fault => rfl
      | none =>
          have hscript : (stage.after (socketLog given)).script = stage.script := by
            cases given <;> rfl
          simp only []
          rw [bind_apply, openWakePair_apply, hscript, Stage.after_append]
          cases stage.script.wakePairFault with
          | some fault =>
              simp only []
              rw [bind_apply, close_apply]
              rfl
          | none => rfl

/-! ## Pausing -/

/-- Waiting for some time unless a stop is pending. -/
inductive Sleeps (sender : Sender) (delay : Binary64) :
    Stage → List Event → Except SenderError Bool → Prop
  | pending {stage : Stage} (hstop : stage.stopRequested = true) :
      Sleeps sender delay stage [] (.ok true)
  | failed {stage : Stage} {error : SenderError} (hgo : stage.stopRequested = false)
      (herror : sender.waitError? stage.script delay = some error) :
      Sleeps sender delay stage [] (.error error)
  | waited {stage : Stage} {stopping : Bool} (hgo : stage.stopRequested = false)
      (herror : sender.waitError? stage.script delay = none)
      (hstopping : (stage.after (waitLog delay)).stopRequested = stopping) :
      Sleeps sender delay stage (waitLog delay) (.ok stopping)

theorem Sleeps.eq {hold : Bool} {sender : Sender} {delay : Binary64} {stage : Stage}
    {log : List Event} {result : Except SenderError Bool}
    (h : Sleeps sender delay stage log result) :
    sender.sleep (rehearsal hold) delay stage = (result, stage.after log) := by
  rw [sleep, bind_apply, stopRequested_apply]
  cases h with
  | pending hstop => rw [if_pos hstop]; rfl
  | failed hgo herror =>
      rw [if_neg (by simp [hgo])]
      unfold waitError? at herror
      split at herror
      · next hdelay =>
          rw [if_pos hdelay, bind_apply, refusesWait_apply]
          split at herror
          · next hlong => cases herror; rw [if_pos (decide_eq_true hlong)]; rfl
          · next hshort =>
              rw [if_neg (by simp [hshort])]
              split at herror
              · next hclosed => cases herror; rw [if_pos hclosed]; rfl
              · cases herror
      · cases herror
  | waited hgo herror hstopping =>
      subst hstopping
      rw [if_neg (by simp [hgo])]
      unfold waitError? at herror
      unfold waitLog
      split at herror
      · next hdelay =>
          rw [if_pos hdelay, if_pos hdelay, bind_apply, refusesWait_apply]
          split at herror
          · cases herror
          · next hshort =>
              rw [if_neg (by simp [hshort])]
              split at herror
              · cases herror
              · next hopen => rw [if_neg hopen]; rfl
      · next hdelay => rw [if_neg hdelay, if_neg hdelay, Stage.after_nil, hgo]; rfl

theorem exists_sleeps (sender : Sender) (delay : Binary64) (stage : Stage) :
    ∃ log result, Sleeps sender delay stage log result := by
  cases hstop : stage.stopRequested with
  | true => exact ⟨_, _, .pending hstop⟩
  | false =>
      cases herror : sender.waitError? stage.script delay with
      | some error => exact ⟨_, _, .failed hstop herror⟩
      | none => exact ⟨_, _, .waited hstop herror rfl⟩

/-- The pause before a retry, which is a wait unless the surroundings hold the sender back. -/
inductive Pauses (sender : Sender) (delay : Binary64) (stage : Stage) :
    Bool → List Event → Except SenderError Unit → Prop
  | heldBack : Pauses sender delay stage true [.heldBack delay] (.ok ())
  | failed {log : List Event} {error : SenderError}
      (hsleep : Sleeps sender delay stage log (.error error)) :
      Pauses sender delay stage false log (.error error)
  | slept {log : List Event} {stopping : Bool}
      (hsleep : Sleeps sender delay stage log (.ok stopping)) :
      Pauses sender delay stage false log (.ok ())

theorem Pauses.eq {hold : Bool} {sender : Sender} {delay : Binary64} {stage : Stage}
    {log : List Event} {result : Except SenderError Unit}
    (h : Pauses sender delay stage hold log result) :
    sender.pauseBeforeRetry (rehearsal hold) delay stage = (result, stage.after log) := by
  rw [pauseBeforeRetry]
  cases h with
  | heldBack => rfl
  | failed hsleep =>
      show ((_ >>= _ : StateM Stage _) stage) = _
      rw [bind_apply, hsleep.eq]
      rfl
  | slept hsleep =>
      show ((_ >>= _ : StateM Stage _) stage) = _
      rw [bind_apply, hsleep.eq]
      rfl

theorem exists_pauses (hold : Bool) (sender : Sender) (delay : Binary64) (stage : Stage) :
    ∃ log result, Pauses sender delay stage hold log result := by
  cases hold with
  | true => exact ⟨_, _, .heldBack⟩
  | false =>
      obtain ⟨log, result, hsleep⟩ := exists_sleeps sender delay stage
      cases result with
      | error error => exact ⟨_, _, .failed hsleep⟩
      | ok stopping => exact ⟨_, _, .slept hsleep⟩

/-! ## The attempts for one datagram -/

/-- Sending one datagram, with the pause before the first retry and the number of retries that
are left. -/
inductive Sends (hold : Bool) : Binary64 → Nat → Sender → Stage →
    List Event → Except SenderError (Option Int) → Sender → Prop
  | delivered {delay : Binary64} {retries : Nat} {sender : Sender} {stage : Stage} {bytes : Int}
      (hout : stage.outcome = .ok bytes) :
      Sends hold delay retries sender stage [sender.sentEvent bytes] (.ok (some bytes)) sender
  | exhausted {delay : Binary64} {sender : Sender} {stage : Stage} {fault : Fault}
      (hout : stage.outcome = .error fault) :
      Sends hold delay 0 sender stage [sender.refusedEvent] (.error (.notSent fault))
        sender.countFailure
  | abandoned {delay : Binary64} {retries : Nat} {sender : Sender} {stage : Stage} {fault : Fault}
      (hout : stage.outcome = .error fault)
      (hstop : (stage.next sender.refusedEvent).stopRequested = true) :
      Sends hold delay (retries + 1) sender stage [sender.refusedEvent] (.ok none)
        sender.countFailure
  | notPaused {delay : Binary64} {retries : Nat} {sender : Sender} {stage : Stage} {fault : Fault}
      {pause : List Event} {error : SenderError}
      (hout : stage.outcome = .error fault)
      (hgo : (stage.next sender.refusedEvent).stopRequested = false)
      (hpause : Pauses sender.countFailure.countRetry delay (stage.next sender.refusedEvent) hold
        pause (.error error)) :
      Sends hold delay (retries + 1) sender stage (sender.refusedEvent :: pause) (.error error)
        sender.countFailure.countRetry
  | abandonedInPause {delay : Binary64} {retries : Nat} {sender : Sender} {stage : Stage}
      {fault : Fault} {pause : List Event}
      (hout : stage.outcome = .error fault)
      (hgo : (stage.next sender.refusedEvent).stopRequested = false)
      (hpause : Pauses sender.countFailure.countRetry delay (stage.next sender.refusedEvent) hold
        pause (.ok ()))
      (hstop : (stage.after (sender.refusedEvent :: pause)).stopRequested = true) :
      Sends hold delay (retries + 1) sender stage (sender.refusedEvent :: pause) (.ok none)
        sender.countFailure.countRetry
  | retried {delay : Binary64} {retries : Nat} {sender final : Sender} {stage : Stage}
      {fault : Fault} {pause log : List Event} {result : Except SenderError (Option Int)}
      (hout : stage.outcome = .error fault)
      (hgo : (stage.next sender.refusedEvent).stopRequested = false)
      (hpause : Pauses sender.countFailure.countRetry delay (stage.next sender.refusedEvent) hold
        pause (.ok ()))
      (hgo' : (stage.after (sender.refusedEvent :: pause)).stopRequested = false)
      (hrest : Sends hold (delay * sender.policy.factor) retries sender.countFailure.countRetry
        (stage.after (sender.refusedEvent :: pause)) log result final) :
      Sends hold delay (retries + 1) sender stage (sender.refusedEvent :: pause ++ log) result
        final

/-- An attempt that is refused and may be repeated goes on as the pause after it says. -/
theorem sendRetrying_of_refused {hold : Bool} {delay : Binary64} {retries : Nat}
    {sender : Sender} {stage : Stage} {fault : Fault} {pause : List Event}
    {result : Except SenderError Unit} (hout : stage.outcome = .error fault)
    (hgo : (stage.next sender.refusedEvent).stopRequested = false)
    (hpause : Pauses sender.countFailure.countRetry delay (stage.next sender.refusedEvent) hold
      pause result) :
    sender.sendRetrying (rehearsal hold) delay (retries + 1) stage =
      match result with
      | .error error =>
        ((.error error, sender.countFailure.countRetry), stage.after (sender.refusedEvent :: pause))
      | .ok () =>
        if (stage.after (sender.refusedEvent :: pause)).stopRequested then
          ((.ok none, sender.countFailure.countRetry), stage.after (sender.refusedEvent :: pause))
        else
          sender.countFailure.countRetry.sendRetrying (rehearsal hold)
            (delay * sender.policy.factor) retries
            (stage.after (sender.refusedEvent :: pause)) := by
  rw [sendRetrying, bind_apply, transmit_apply, hout]
  simp only []
  rw [bind_apply, stopRequested_apply, if_neg (by simp [hgo])]
  rw [bind_apply, hpause.eq]
  cases result with
  | error error => rfl
  | ok _ =>
      simp only []
      rw [bind_apply, stopRequested_apply, Stage.after_cons]
      split
      · rfl
      · rfl

theorem Sends.eq {hold : Bool} {delay : Binary64} {retries : Nat} {sender final : Sender}
    {stage : Stage} {log : List Event} {result : Except SenderError (Option Int)}
    (h : Sends hold delay retries sender stage log result final) :
    sender.sendRetrying (rehearsal hold) delay retries stage =
      ((result, final), stage.after log) := by
  induction h with
  | delivered hout =>
      rw [sendRetrying, bind_apply, transmit_apply, hout]
      rfl
  | exhausted hout =>
      rw [sendRetrying, bind_apply, transmit_apply, hout]
      rfl
  | abandoned hout hstop =>
      rw [sendRetrying, bind_apply, transmit_apply, hout]
      simp only []
      rw [bind_apply, stopRequested_apply, if_pos hstop]
      rfl
  | notPaused hout hgo hpause => rw [sendRetrying_of_refused hout hgo hpause]
  | abandonedInPause hout hgo hpause hstop =>
      rw [sendRetrying_of_refused hout hgo hpause]
      exact if_pos hstop
  | retried hout hgo hpause hgo' hrest ih =>
      rw [sendRetrying_of_refused hout hgo hpause, Stage.after_append, ← ih]
      exact if_neg (by simpa using hgo')

theorem exists_sends (hold : Bool) (delay : Binary64) (retries : Nat) (sender : Sender)
    (stage : Stage) :
    ∃ log result final, Sends hold delay retries sender stage log result final := by
  induction retries generalizing delay sender stage with
  | zero =>
      cases hout : stage.outcome with
      | ok bytes => exact ⟨_, _, _, .delivered hout⟩
      | error fault => exact ⟨_, _, _, .exhausted hout⟩
  | succ retries ih =>
      cases hout : stage.outcome with
      | ok bytes => exact ⟨_, _, _, .delivered hout⟩
      | error fault =>
          cases hstop : (stage.next sender.refusedEvent).stopRequested with
          | true => exact ⟨_, _, _, .abandoned hout hstop⟩
          | false =>
              obtain ⟨pause, result, hpause⟩ := exists_pauses hold
                sender.countFailure.countRetry delay (stage.next sender.refusedEvent)
              cases result with
              | error error => exact ⟨_, _, _, .notPaused hout hstop hpause⟩
              | ok _ =>
                  cases hstop' : (stage.after (sender.refusedEvent :: pause)).stopRequested with
                  | true => exact ⟨_, _, _, .abandonedInPause hout hstop hpause hstop'⟩
                  | false =>
                      obtain ⟨log, result, final, hrest⟩ := ih (delay * sender.policy.factor)
                        sender.countFailure.countRetry
                        (stage.after (sender.refusedEvent :: pause))
                      exact ⟨_, _, _, .retried hout hstop hpause hstop' hrest⟩

/-! ## The datagrams of a run -/

/-- Sending the last `remaining` datagrams of a run. -/
inductive SendsAll (hold : Bool) : Nat → Sender → Stage →
    List Event → Except SenderError Unit → Sender → Prop
  | finished {sender : Sender} {stage : Stage} :
      SendsAll hold 0 sender stage [] (.ok ()) sender
  | stopped {remaining : Nat} {sender : Sender} {stage : Stage}
      (hstop : stage.stopRequested = true) :
      SendsAll hold (remaining + 1) sender stage [] (.ok ()) sender
  | failed {remaining : Nat} {sender final : Sender} {stage : Stage} {log : List Event}
      {error : SenderError} (hgo : stage.stopRequested = false)
      (hsend : Sends hold sender.policy.backoff sender.policy.limit sender stage log
        (.error error) final) :
      SendsAll hold (remaining + 1) sender stage log (.error error) final
  | abandoned {remaining : Nat} {sender final : Sender} {stage : Stage} {log : List Event}
      (hgo : stage.stopRequested = false)
      (hsend : Sends hold sender.policy.backoff sender.policy.limit sender stage log
        (.ok none) final) :
      SendsAll hold (remaining + 1) sender stage log (.ok ()) final
  | notPaused {remaining : Nat} {sender sent : Sender} {stage : Stage} {log pause : List Event}
      {bytes : Int} {error : SenderError} (hgo : stage.stopRequested = false)
      (hsend : Sends hold sender.policy.backoff sender.policy.limit sender stage log
        (.ok (some bytes)) sent)
      (hsleep : Sleeps (sent.countSent bytes) sent.config.interval
        (stage.after (log ++ [sent.progressEvent remaining])) pause (.error error)) :
      SendsAll hold (remaining + 1) sender stage (log ++ [sent.progressEvent remaining] ++ pause)
        (.error error) (sent.countSent bytes)
  | stoppedInPause {remaining : Nat} {sender sent : Sender} {stage : Stage}
      {log pause : List Event} {bytes : Int} (hgo : stage.stopRequested = false)
      (hsend : Sends hold sender.policy.backoff sender.policy.limit sender stage log
        (.ok (some bytes)) sent)
      (hsleep : Sleeps (sent.countSent bytes) sent.config.interval
        (stage.after (log ++ [sent.progressEvent remaining])) pause (.ok true)) :
      SendsAll hold (remaining + 1) sender stage (log ++ [sent.progressEvent remaining] ++ pause)
        (.ok ()) (sent.countSent bytes)
  | next {remaining : Nat} {sender sent final : Sender} {stage : Stage}
      {log pause rest : List Event} {bytes : Int} {result : Except SenderError Unit}
      (hgo : stage.stopRequested = false)
      (hsend : Sends hold sender.policy.backoff sender.policy.limit sender stage log
        (.ok (some bytes)) sent)
      (hsleep : Sleeps (sent.countSent bytes) sent.config.interval
        (stage.after (log ++ [sent.progressEvent remaining])) pause (.ok false))
      (hrest : SendsAll hold remaining (sent.countSent bytes)
        (stage.after (log ++ [sent.progressEvent remaining] ++ pause)) rest result final) :
      SendsAll hold (remaining + 1) sender stage
        (log ++ [sent.progressEvent remaining] ++ pause ++ rest) result final

/-- A turn whose datagram has gone out goes on as the pause after it says. -/
theorem sendRemaining_of_sent {hold : Bool} {remaining : Nat} {sender sent : Sender}
    {stage : Stage} {log : List Event} {bytes : Int} (hgo : stage.stopRequested = false)
    (hsend : Sends hold sender.policy.backoff sender.policy.limit sender stage log
      (.ok (some bytes)) sent) :
    sender.sendRemaining (rehearsal hold) (remaining + 1) stage =
      match (sent.countSent bytes).sleep (rehearsal hold) sent.config.interval
          (stage.after (log ++ [sent.progressEvent remaining])) with
      | (.error error, after) => ((.error error, sent.countSent bytes), after)
      | (.ok true, after) => ((.ok (), sent.countSent bytes), after)
      | (.ok false, after) =>
          (sent.countSent bytes).sendRemaining (rehearsal hold) remaining after := by
  rw [sendRemaining, bind_apply, stopRequested_apply, if_neg (by simp [hgo]), bind_apply, send,
    hsend.eq, Stage.after_append]
  simp only []
  rw [bind_apply, print_apply, bind_apply]
  simp only [countSent_config, Stage.after_cons, Stage.after_nil, progressEvent, progressText]
  rcases (sleep (rehearsal hold) (sent.countSent bytes) sent.config.interval : StateM Stage _) _
    with ⟨error | stopping, after⟩
  · rfl
  · cases stopping with
    | true => rfl
    | false => rfl

theorem SendsAll.eq {hold : Bool} {remaining : Nat} {sender final : Sender} {stage : Stage}
    {log : List Event} {result : Except SenderError Unit}
    (h : SendsAll hold remaining sender stage log result final) :
    sender.sendRemaining (rehearsal hold) remaining stage = ((result, final), stage.after log) := by
  induction h with
  | finished => rfl
  | stopped hstop => rw [sendRemaining, bind_apply, stopRequested_apply, if_pos hstop]; rfl
  | failed hgo hsend =>
      rw [sendRemaining, bind_apply, stopRequested_apply, if_neg (by simp [hgo]), bind_apply, send,
        hsend.eq]
      rfl
  | abandoned hgo hsend =>
      rw [sendRemaining, bind_apply, stopRequested_apply, if_neg (by simp [hgo]), bind_apply, send,
        hsend.eq]
      rfl
  | notPaused hgo hsend hsleep =>
      rw [sendRemaining_of_sent hgo hsend, hsleep.eq, ← Stage.after_append]
  | stoppedInPause hgo hsend hsleep =>
      rw [sendRemaining_of_sent hgo hsend, hsleep.eq, ← Stage.after_append]
  | next hgo hsend hsleep hrest ih =>
      rw [Stage.after_append, ← ih, sendRemaining_of_sent hgo hsend, hsleep.eq,
        ← Stage.after_append]

theorem exists_sendsAll (hold : Bool) (remaining : Nat) (sender : Sender) (stage : Stage) :
    ∃ log result final, SendsAll hold remaining sender stage log result final := by
  induction remaining generalizing sender stage with
  | zero => exact ⟨_, _, _, .finished⟩
  | succ remaining ih =>
      cases hstop : stage.stopRequested with
      | true => exact ⟨_, _, _, .stopped hstop⟩
      | false =>
          obtain ⟨log, result, sent, hsend⟩ := exists_sends hold sender.policy.backoff
            sender.policy.limit sender stage
          cases result with
          | error error => exact ⟨_, _, _, .failed hstop hsend⟩
          | ok answer =>
              cases answer with
              | none => exact ⟨_, _, _, .abandoned hstop hsend⟩
              | some bytes =>
                  obtain ⟨pause, pausing, hsleep⟩ := exists_sleeps (sent.countSent bytes)
                    sent.config.interval (stage.after (log ++ [sent.progressEvent remaining]))
                  cases pausing with
                  | error error => exact ⟨_, _, _, .notPaused hstop hsend hsleep⟩
                  | ok stopping =>
                      cases stopping with
                      | true => exact ⟨_, _, _, .stoppedInPause hstop hsend hsleep⟩
                      | false =>
                          obtain ⟨rest, result, final, hrest⟩ := ih (sent.countSent bytes)
                            (stage.after (log ++ [sent.progressEvent remaining] ++ pause))
                          exact ⟨_, _, _, .next hstop hsend hsleep hrest⟩

/-! ## The run -/

/-- A whole run. The sender is judged by all the datagrams it has counted so far. -/
inductive Runs (hold : Bool) (sender : Sender) (stage : Stage) :
    List Event → Except SenderError Nat → Sender → Prop
  | failed {log : List Event} {error : SenderError} {final : Sender}
      (hsend : SendsAll hold sender.config.count sender stage log (.error error) final) :
      Runs hold sender stage (log ++ [.closed]) (.error error) { final with closed := true }
  | cutShort {log : List Event} {final : Sender}
      (hsend : SendsAll hold sender.config.count sender stage log (.ok ()) final)
      (hfew : final.tally.datagrams < final.config.count) :
      Runs hold sender stage (log ++ [.closed]) (.ok final.tally.datagrams)
        { final with interrupted := true, closed := true }
  | complete {log : List Event} {final : Sender}
      (hsend : SendsAll hold sender.config.count sender stage log (.ok ()) final)
      (hall : final.config.count ≤ final.tally.datagrams) :
      Runs hold sender stage (log ++ [completeEvent, .closed]) (.ok final.tally.datagrams)
        { final with closed := true }

theorem conclude_of_lt {hold : Bool} {sender : Sender} {stage : Stage}
    (hfew : sender.tally.datagrams < sender.config.count) :
    sender.conclude (rehearsal hold) stage =
      ((sender.tally.datagrams, { sender with interrupted := true }), stage) := by
  rw [conclude, if_pos hfew]
  rfl

theorem conclude_of_le {hold : Bool} {sender : Sender} {stage : Stage}
    (hall : sender.config.count ≤ sender.tally.datagrams) :
    sender.conclude (rehearsal hold) stage =
      ((sender.tally.datagrams, sender), stage.next completeEvent) := by
  rw [conclude, if_neg (by omega), bind_apply, print_apply]
  rfl

theorem closing {hold : Bool} {sender : Sender} {stage : Stage} :
    sender.close (rehearsal hold) stage =
      ({ sender with closed := true }, stage.next .closed) := by
  rw [close, bind_apply, close_apply]
  rfl

theorem Runs.eq {hold : Bool} {sender final : Sender} {stage : Stage} {log : List Event}
    {result : Except SenderError Nat} (h : Runs hold sender stage log result final) :
    sender.run (rehearsal hold) stage = ((result, final), stage.after log) := by
  cases h with
  | failed hsend =>
      rw [run, bind_apply, hsend.eq, Stage.after_append]
      simp only []
      rw [bind_apply, closing]
      rfl
  | cutShort hsend hfew =>
      rw [run, bind_apply, hsend.eq, Stage.after_append]
      simp only []
      rw [bind_apply, conclude_of_lt hfew]
      simp only []
      rw [bind_apply, closing]
      rfl
  | complete hsend hall =>
      rw [run, bind_apply, hsend.eq, Stage.after_append]
      simp only []
      rw [bind_apply, conclude_of_le hall]
      simp only []
      rw [bind_apply, closing]
      rfl

theorem exists_runs (hold : Bool) (sender : Sender) (stage : Stage) :
    ∃ log result final, Runs hold sender stage log result final := by
  obtain ⟨log, result, final, hsend⟩ := exists_sendsAll hold sender.config.count sender stage
  cases result with
  | error error => exact ⟨_, _, _, .failed hsend⟩
  | ok _ =>
      rcases Nat.lt_or_ge final.tally.datagrams final.config.count with hfew | hall
      · exact ⟨_, _, _, .cutShort hsend hfew⟩
      · exact ⟨_, _, _, .complete hsend hall⟩

end Sender

end Heartbeat
