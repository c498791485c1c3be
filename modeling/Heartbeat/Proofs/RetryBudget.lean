import Heartbeat.Proofs.LongPauses
import Heartbeat.Proofs.Unstopped

/-!
# The budget of a datagram

A datagram that is refused is tried again after each of the pauses that the policy allows. While no
stop is requested and no wait fails, nothing else plays a part in that: how many refusals lie ahead
in the script decides how many attempts are made (`Spends`), and the sender is left with nothing
changed but its counters. So every datagram of a run has the same pauses before it, whatever became
of the datagrams before (`SpendsAll`).
-/

namespace Heartbeat

/-- Is a datagram refused at this hand-over? -/
def Cue.isRefusal (cue : Cue) : Bool :=
  match cue.delivery with
  | .refused _ => true
  | .whole | .counted _ => false

namespace Script

/-- How many refusals in a row the script lays down from a position on. -/
def refusalsFrom (script : Script) (position : Nat) : Nat :=
  ((script.sends.drop position).takeWhile Cue.isRefusal).length

theorem refusalsFrom_after (script : Script) (log : List Event) (position : Nat) :
    (script.after log).refusalsFrom position =
      script.refusalsFrom (Log.attemptCount log + position) := by
  rw [refusalsFrom, sends_after, List.drop_drop, refusalsFrom]

end Script

namespace Stage

theorem isRefusal_headD (stage : Stage) :
    (stage.script.sends.headD {}).isRefusal = !stage.outcome.isOk := by
  rw [outcome, Cue.isRefusal]
  cases (stage.script.sends.headD {}).delivery <;> rfl

theorem refusalsFrom_of_ok {stage : Stage} {bytes : Int} (h : stage.outcome = .ok bytes) :
    stage.script.refusalsFrom 0 = 0 := by
  have hhead := stage.isRefusal_headD
  cases hsends : stage.script.sends with
  | nil => simp [Script.refusalsFrom, hsends]
  | cons cue rest =>
      rw [hsends, h] at hhead
      have hcue : ¬ cue.isRefusal = true := Bool.eq_false_iff.mp hhead
      rw [Script.refusalsFrom, hsends, List.drop_zero, List.takeWhile_cons_of_neg hcue,
        List.length_nil]

theorem refusalsFrom_of_error {stage : Stage} {fault : Fault} (h : stage.outcome = .error fault) :
    stage.script.refusalsFrom 0 = stage.script.refusalsFrom 1 + 1 := by
  have hhead := stage.isRefusal_headD
  cases hsends : stage.script.sends with
  | nil =>
      rw [hsends, h] at hhead
      cases hhead
  | cons cue rest =>
      rw [hsends, h] at hhead
      have hcue : cue.isRefusal = true := hhead
      rw [Script.refusalsFrom, Script.refusalsFrom, hsends, List.drop_zero,
        List.takeWhile_cons_of_pos hcue, List.length_cons]
      rfl

/-- No stop has been requested, and the script lays down none. -/
def IsQuiet (stage : Stage) : Prop := stage.quiet = stage

theorem IsQuiet.after {stage : Stage} (h : stage.IsQuiet) (log : List Event) :
    (stage.after log).IsQuiet := by
  rw [IsQuiet, quiet_after, h]

theorem IsQuiet.stopRequested {stage : Stage} (h : stage.IsQuiet) :
    stage.stopRequested = false := by
  rw [← h]
  rfl

end Stage

namespace Sender

/-- What is seen of the pause before a retry. -/
def pauseLog (hold : Bool) (delay : Binary64) : List Event :=
  if hold then [.heldBack delay] else waitLog delay

/-- Attempts that are refused, each with the pause before the next one. -/
def retriedLog (hold : Bool) (sender : Sender) (delays : List Binary64) : List Event :=
  delays.flatMap fun delay => sender.refusedEvent :: pauseLog hold delay

/-- The sender with so many failures and retries more. -/
def spent (failures retries : Nat) (sender : Sender) : Sender :=
  { sender with tally := { sender.tally with
      failures := sender.tally.failures + failures, retries := sender.tally.retries + retries } }

/-- All the pauses that the sender may make before the retries of one datagram. -/
def budget (sender : Sender) : List Binary64 := sender.policy.delays sender.policy.limit

/-- Sending one datagram with these pauses: it is tried again after one of them for each refusal
that lies ahead, until it goes out or is refused with no pause left. -/
inductive Spends (hold : Bool) (delays : List Binary64) (sender : Sender) (stage : Stage) :
    List Event → Except SenderError (Option Int) → Sender → Prop
  | delivered {failures : Nat} {bytes : Int} (hfailures : stage.script.refusalsFrom 0 = failures)
      (hfew : failures ≤ delays.length)
      (hout : (stage.after (retriedLog hold sender (delays.take failures))).outcome = .ok bytes) :
      Spends hold delays sender stage
        (retriedLog hold sender (delays.take failures) ++ [sender.sentEvent bytes])
        (.ok (some bytes)) (sender.spent failures failures)
  | exhausted {fault : Fault} (hmany : delays.length < stage.script.refusalsFrom 0)
      (hout : (stage.after (retriedLog hold sender delays)).outcome = .error fault) :
      Spends hold delays sender stage (retriedLog hold sender delays ++ [sender.refusedEvent])
        (.error (.notSent fault)) (sender.spent (delays.length + 1) delays.length)

/-- Sending the last `remaining` datagrams of a run, every one of them with these pauses. -/
inductive SpendsAll (hold : Bool) (delays : List Binary64) :
    Nat → Sender → Stage → List Event → Except SenderError Unit → Sender → Prop
  | finished {sender : Sender} {stage : Stage} :
      SpendsAll hold delays 0 sender stage [] (.ok ()) sender
  | failed {remaining : Nat} {sender final : Sender} {stage : Stage} {log : List Event}
      {error : SenderError} (h : Spends hold delays sender stage log (.error error) final) :
      SpendsAll hold delays (remaining + 1) sender stage log (.error error) final
  | next {remaining : Nat} {sender sent final : Sender} {stage : Stage} {log rest : List Event}
      {bytes : Int} {result : Except SenderError Unit}
      (h : Spends hold delays sender stage log (.ok (some bytes)) sent)
      (hrest : SpendsAll hold delays remaining (sent.countSent bytes)
        (stage.after (log ++ [sent.progressEvent remaining] ++ waitLog sent.config.interval))
        rest result final) :
      SpendsAll hold delays (remaining + 1) sender stage
        (log ++ [sent.progressEvent remaining] ++ waitLog sent.config.interval ++ rest) result final

/-- The waits do not fail that come before the retries of a datagram whose first attempt is at a
position of the script. A sender that is held back does not wait. -/
def WaitsWork (hold : Bool) (sender : Sender) (script : Script) (position : Nat) : Prop :=
  hold = false → ∀ delay ∈ sender.budget.take (script.refusalsFrom position),
    sender.waitError? script delay = none

variable {hold : Bool} {delay : Binary64} {delays : List Binary64} {sender final : Sender}
  {stage : Stage} {log : List Event} {result : Except SenderError (Option Int)} {fault : Fault}

theorem countRetry_spent (failures retries : Nat) (sender : Sender) :
    sender.countFailure.countRetry.spent failures retries =
      sender.spent (failures + 1) (retries + 1) := by
  simp [spent, countRetry, countFailure, Nat.add_assoc, Nat.add_comm 1]

/-! ## One datagram -/

theorem pauseLog_true (delay : Binary64) : pauseLog true delay = [.heldBack delay] := if_pos rfl

theorem pauseLog_false (delay : Binary64) : pauseLog false delay = waitLog delay :=
  if_neg Bool.false_ne_true

theorem pauses_of_quiet (hquiet : stage.IsQuiet)
    (hwait : hold = false → sender.waitError? stage.script delay = none) :
    Pauses sender delay stage hold (pauseLog hold delay) (.ok ()) := by
  cases hold with
  | true =>
      rw [pauseLog_true]
      exact .heldBack
  | false =>
      rw [pauseLog_false]
      exact .slept (.waited hquiet.stopRequested (hwait rfl) rfl)

theorem attemptCount_waitLog (delay : Binary64) : Log.attemptCount (waitLog delay) = 0 := by
  rw [waitLog]
  split <;> rfl

theorem attemptCount_refused_pauseLog (hold : Bool) (sender : Sender) (delay : Binary64) :
    Log.attemptCount (sender.refusedEvent :: pauseLog hold delay) = 1 := by
  rw [← List.singleton_append, Log.attemptCount_append]
  cases hold with
  | true => rfl
  | false =>
      rw [pauseLog_false, attemptCount_waitLog]
      rfl

theorem Spends.of_ok {bytes : Int} (hout : stage.outcome = .ok bytes) :
    Spends hold delays sender stage [sender.sentEvent bytes] (.ok (some bytes)) sender :=
  .delivered (Stage.refusalsFrom_of_ok hout) (Nat.zero_le _) hout

theorem Spends.of_nil (hout : stage.outcome = .error fault) :
    Spends hold [] sender stage [sender.refusedEvent] (.error (.notSent fault))
      sender.countFailure :=
  .exhausted (by rw [Stage.refusalsFrom_of_error hout]; exact Nat.succ_pos _) hout

theorem retriedLog_cons (hold : Bool) (sender : Sender) (delay : Binary64)
    (delays : List Binary64) :
    retriedLog hold sender (delay :: delays) =
      sender.refusedEvent :: pauseLog hold delay ++ retriedLog hold sender delays :=
  List.flatMap_cons

theorem retriedLog_countRetry (hold : Bool) (sender : Sender) (delays : List Binary64) :
    retriedLog hold sender.countFailure.countRetry delays = retriedLog hold sender delays := rfl

theorem Spends.cons (hout : stage.outcome = .error fault)
    (h : Spends hold delays sender.countFailure.countRetry
      (stage.after (sender.refusedEvent :: pauseLog hold delay)) log result final) :
    Spends hold (delay :: delays) sender stage
      (sender.refusedEvent :: pauseLog hold delay ++ log) result final := by
  have hahead :
      (stage.after (sender.refusedEvent :: pauseLog hold delay)).script.refusalsFrom 0 + 1 =
        stage.script.refusalsFrom 0 := by
    rw [Stage.script_after, Script.refusalsFrom_after, attemptCount_refused_pauseLog,
      Stage.refusalsFrom_of_error hout]
  cases h with
  | @delivered failures bytes hfailures hfew hout' =>
      rw [hfailures] at hahead
      rw [retriedLog_countRetry, ← Stage.after_append, ← retriedLog_cons, ← List.take_succ_cons]
        at hout'
      rw [retriedLog_countRetry, countRetry_spent, ← List.append_assoc, ← retriedLog_cons,
        ← List.take_succ_cons]
      exact .delivered hahead.symm (Nat.succ_le_succ hfew) hout'
  | exhausted hmany hout' =>
      rw [retriedLog_countRetry, ← Stage.after_append, ← retriedLog_cons] at hout'
      rw [retriedLog_countRetry, countRetry_spent, ← List.append_assoc, ← retriedLog_cons]
      exact .exhausted (by rw [← hahead]; exact Nat.succ_lt_succ hmany) hout'

/-- The pauses are those of the policy, and all that is lost is what the counters show. -/
theorem exists_spends (hquiet : stage.IsQuiet) (retries : Nat)
    (hwaits : hold = false → ∀ pause ∈ (RetryPolicy.growing sender.policy.factor retries delay).take
      (stage.script.refusalsFrom 0), sender.waitError? stage.script pause = none) :
    ∃ log result final,
      Spends hold (RetryPolicy.growing sender.policy.factor retries delay) sender stage log result
        final ∧
      Sends hold delay retries sender stage log result final := by
  induction retries generalizing delay sender stage with
  | zero =>
      cases hout : stage.outcome with
      | ok bytes => exact ⟨_, _, _, .of_ok hout, .delivered hout⟩
      | error fault => exact ⟨_, _, _, .of_nil hout, .exhausted hout⟩
  | succ retries ih =>
      cases hout : stage.outcome with
      | ok bytes => exact ⟨_, _, _, .of_ok hout, .delivered hout⟩
      | error fault =>
          rw [Stage.refusalsFrom_of_error hout] at hwaits
          have hkeep := waitError?_after sender.countFailure.countRetry stage [sender.refusedEvent]
          rw [Stage.after_cons, Stage.after_nil] at hkeep
          have hpause : Pauses sender.countFailure.countRetry delay
              (stage.next sender.refusedEvent) hold (pauseLog hold delay) (.ok ()) :=
            pauses_of_quiet (hquiet.after [_]) fun hhold => by
              rw [hkeep]
              exact hwaits hhold _ List.mem_cons_self
          have hquiet' := hquiet.after (sender.refusedEvent :: pauseLog hold delay)
          obtain ⟨log, result, final, hspends, hsends⟩ := @ih (delay * sender.policy.factor)
            sender.countFailure.countRetry _ hquiet' fun hhold pause hmem => by
              rw [Stage.script_after, Script.refusalsFrom_after,
                attemptCount_refused_pauseLog] at hmem
              rw [waitError?_after]
              exact hwaits hhold pause (List.mem_cons_of_mem _ hmem)
          exact ⟨_, _, _, .cons hout hspends, .retried hout (hquiet.after [_]).stopRequested hpause
            hquiet'.stopRequested hsends⟩

theorem exists_spends_budget (hquiet : stage.IsQuiet)
    (hwaits : WaitsWork hold sender stage.script 0) :
    ∃ log result final, Spends hold sender.budget sender stage log result final ∧
      Sends hold sender.policy.backoff sender.policy.limit sender stage log result final := by
  rw [WaitsWork, budget, delays_limit] at hwaits
  rw [budget, delays_limit]
  exact exists_spends hquiet sender.policy.limit hwaits

theorem Spends.final_eq (h : Spends hold delays sender stage log result final) :
    ∃ failures retries, final = sender.spent failures retries := by
  cases h with
  | delivered => exact ⟨_, _, rfl⟩
  | exhausted => exact ⟨_, _, rfl⟩

theorem attemptCount_retriedLog (hold : Bool) (sender : Sender) (delays : List Binary64) :
    Log.attemptCount (retriedLog hold sender delays) = delays.length := by
  induction delays with
  | nil => rfl
  | cons delay rest ih =>
      rw [retriedLog_cons, Log.attemptCount_append, attemptCount_refused_pauseLog, ih,
        List.length_cons, Nat.add_comm]

/-- What is said of a datagram that is given up is said of its last attempt. -/
theorem Spends.message_eq {error : SenderError}
    (h : Spends hold delays sender stage log (.error error) final) :
    ∃ fault, stage.script.deliveryAt delays.length = .refused fault ∧
      error.message = "sendto(): " ++ fault.reason := by
  cases h with
  | exhausted hmany hout =>
      refine ⟨_, ?_, rfl⟩
      rw [← attemptCount_retriedLog hold sender delays]
      exact Stage.deliveryAt_of_refused hout

/-! ## The datagrams of a run -/

theorem WaitsWork.after (h : ∀ position, WaitsWork hold sender stage.script position)
    (log : List Event) (position : Nat) :
    WaitsWork hold sender (stage.after log).script position := by
  intro hhold delay hmem
  rw [Stage.script_after, Script.refusalsFrom_after] at hmem
  rw [waitError?_after]
  exact h _ hhold delay hmem

theorem exists_spendsAll (hquiet : stage.IsQuiet) (remaining : Nat)
    (hwaits : ∀ position, WaitsWork hold sender stage.script position)
    (hinterval : sender.waitError? stage.script sender.config.interval = none) :
    ∃ log result final, SpendsAll hold sender.budget remaining sender stage log result final ∧
      SendsAll hold remaining sender stage log result final := by
  induction remaining generalizing sender stage with
  | zero => exact ⟨_, _, _, .finished, .finished⟩
  | succ remaining ih =>
      have hgo := hquiet.stopRequested
      obtain ⟨log, result, sent, hspends, hsends⟩ := exists_spends_budget hquiet (hwaits 0)
      match result with
      | .error error => exact ⟨_, _, _, .failed hspends, .failed hgo hsends⟩
      | .ok none => cases hspends
      | .ok (some bytes) =>
          -- nothing is left of the datagram but counts, so the next one meets the same sender
          obtain ⟨failures, retries, rfl⟩ := hspends.final_eq
          have hsleep : Sleeps ((sender.spent failures retries).countSent bytes)
              sender.config.interval
              (stage.after (log ++ [(sender.spent failures retries).progressEvent remaining]))
              (waitLog sender.config.interval) (.ok false) :=
            .waited (hquiet.after _).stopRequested ((waitError?_after _ _ _ _).trans hinterval)
              ((hquiet.after _).after _).stopRequested
          obtain ⟨rest, result, final, hspends', hsends'⟩ :=
            @ih ((sender.spent failures retries).countSent bytes) _
              (hquiet.after (log ++ [(sender.spent failures retries).progressEvent remaining] ++
                waitLog sender.config.interval))
              (WaitsWork.after hwaits _) ((waitError?_after _ _ _ _).trans hinterval)
          exact ⟨_, _, _, .next hspends hspends', .next hgo hsends hsleep hsends'⟩

theorem length_growing (factor : Binary64) (count : Nat) (delay : Binary64) :
    (RetryPolicy.growing factor count delay).length = count := by
  induction count generalizing delay with
  | zero => rfl
  | succ count ih => exact congrArg (· + 1) (ih _)

theorem length_delays_limit (policy : RetryPolicy) :
    ((policy.delays policy.limit).length : Int) = max policy.retries 0 := by
  rw [delays_limit, length_growing, RetryPolicy.limit, Int.ofNat_toNat]

theorem length_budget (sender : Sender) :
    (sender.budget.length : Int) = max sender.policy.retries 0 :=
  length_delays_limit sender.policy

/-- While no stop is requested and no wait fails, every datagram has a budget of its own: one
attempt more than there are retries, with the pauses of the policy between them. That holds for
whatever the sender has counted before, and so for all the datagrams of a run. One that goes out
answers with its byte count, and what is said of one that is given up is said of its last
attempt. -/
theorem spends_budget (hold : Bool) (sender : Sender) {stage : Stage} (hquiet : stage.IsQuiet) :
    (sender.budget.length : Int) = max sender.policy.retries 0 ∧
      (WaitsWork hold sender stage.script 0 →
        ∃ log result final, Spends hold sender.budget sender stage log result final ∧
          sender.send (rehearsal hold) stage = ((result, final), stage.after log) ∧
          ∀ error, result = .error error →
            ∃ fault, stage.script.deliveryAt sender.budget.length = .refused fault ∧
              error.message = "sendto(): " ++ fault.reason) ∧
      ((∀ position, WaitsWork hold sender stage.script position) →
        sender.waitError? stage.script sender.config.interval = none →
          ∃ log result final,
            SpendsAll hold sender.budget sender.config.count sender stage log result final ∧
            sender.sendRemaining (rehearsal hold) sender.config.count stage =
              ((result, final), stage.after log)) := by
  refine ⟨sender.length_budget, fun hwaits => ?_, fun hwaits hinterval => ?_⟩
  · obtain ⟨log, result, final, hspends, hsends⟩ := exists_spends_budget hquiet hwaits
    refine ⟨log, result, final, hspends, hsends.eq, fun error hresult => ?_⟩
    subst hresult
    exact hspends.message_eq
  · obtain ⟨log, result, final, hspends, hsends⟩ :=
      exists_spendsAll hquiet sender.config.count hwaits hinterval
    exact ⟨log, result, final, hspends, hsends.eq⟩

/-- A sender that may try every datagram three times. -/
def stubbornSender : Sender where
  config := Config.standard
  policy := { retries := 2 }
  destination := ⟨"127.0.0.1", 5556⟩

/-- The first datagram goes out at its second attempt, with no byte, and the next one is refused
three times in spite of that. -/
def refusingStage : Stage where
  script := { sends := [⟨.refused .silent, 0⟩, ⟨.counted 0, 0⟩, ⟨.refused .silent, 0⟩,
    ⟨.refused .silent, 0⟩, ⟨.refused (.worded "down"), 0⟩] }

theorem waitError?_of_mem_budget :
    ∀ delay ∈ stubbornSender.budget,
      stubbornSender.waitError? refusingStage.script delay = none := by
  decide +kernel

theorem spends_budget_of_refusing :
    refusingStage.IsQuiet ∧
      (∀ position, WaitsWork false stubbornSender refusingStage.script position) ∧
      (∃ log result final,
        Spends false stubbornSender.budget stubbornSender refusingStage log result final ∧
        stubbornSender.send (rehearsal false) refusingStage =
          ((result, final), refusingStage.after log)) ∧
      ∃ log result final,
        SpendsAll false stubbornSender.budget 10 stubbornSender refusingStage log result final ∧
        stubbornSender.sendRemaining (rehearsal false) 10 refusingStage =
          ((result, final), refusingStage.after log) := by
  have hquiet : refusingStage.IsQuiet := rfl
  have hwaits : ∀ position, WaitsWork false stubbornSender refusingStage.script position :=
    fun position _ delay hmem => waitError?_of_mem_budget delay (List.mem_of_mem_take hmem)
  have hinterval : stubbornSender.waitError? refusingStage.script
      stubbornSender.config.interval = none := by
    decide +kernel
  obtain ⟨-, hsend, hrun⟩ := spends_budget false stubbornSender hquiet
  obtain ⟨log, result, final, hspends, heq, -⟩ := hsend (hwaits 0)
  exact ⟨hquiet, hwaits, ⟨log, result, final, hspends, heq⟩, hrun hwaits hinterval⟩

end Sender

end Heartbeat
