import Heartbeat.Proofs.RunLog

/-!
# Histories of a sender

A sender that has been set up is asked for one thing after another, and both its counters and the
script run on from each to the next. `Performs` is the judgment of one command, sound and complete
like those of a run, and `steps` lists a whole history: each command with the sender and the stage
that it met and the act that it came to. The acts are those of the rehearsal (`map_act_steps`), and
what a history leaves behind is `reached`.

Only a stop request changes the stage without an event, so a command leads to the stage of its log
and the stop requests that it makes itself.
-/

namespace Heartbeat

namespace Stage

theorem stop_zero (stage : Stage) : stage.stop 0 = stage := by
  simp [stop]

end Stage

namespace Sender

/-- The stop requests that a command makes itself. -/
def Command.stops : Command → Nat
  | .stop times => times
  | _ => 0

/-- Carrying out a command. -/
inductive Performs (hold : Bool) (sender : Sender) (stage : Stage) :
    Command → List Event → Except SenderError Answer → Sender → Prop
  | run {log : List Event} {result : Except SenderError Nat} {final : Sender}
      (hrun : Runs hold sender stage log result final) :
      Performs hold sender stage .run log (result.map .sent) final
  | stop {times : Nat} : Performs hold sender stage (.stop times) [] (.ok .done) sender
  | close : Performs hold sender stage .close [.closed] (.ok .done) { sender with closed := true }
  | sleep {delay : Binary64} {log : List Event} {result : Except SenderError Bool}
      (hsleep : Sleeps sender delay stage log result) :
      Performs hold sender stage (.sleep delay) log (result.map .stopping) sender
  | send {log : List Event} {result : Except SenderError (Option Int)} {final : Sender}
      (hsend : Sends hold sender.policy.backoff sender.policy.limit sender stage log result
        final) :
      Performs hold sender stage .send log (result.map .bytes) final

/-- The stage that a command leads to. -/
def stageAfter (stage : Stage) (command : Command) (log : List Event) : Stage :=
  (stage.after log).stop command.stops

theorem stageAfter_eq {command : Command} (h : command.stops = 0) (stage : Stage)
    (log : List Event) : stageAfter stage command log = stage.after log := by
  rw [stageAfter, h, Stage.stop_zero]

theorem drop_events_stageAfter (stage : Stage) (command : Command) (log : List Event) :
    (stageAfter stage command log).events.toList.drop stage.events.size = log :=
  stage.drop_events_after log

section Soundness

variable {hold : Bool} {sender final : Sender} {stage : Stage} {command : Command}
  {log : List Event} {answer : Except SenderError Answer}

theorem Performs.eq (h : Performs hold sender stage command log answer final) :
    sender.perform hold command stage = ((answer, final), stageAfter stage command log) := by
  cases h with
  | run hrun =>
      rw [perform, stageAfter_eq rfl]
      simp only []
      rw [bind_apply, hrun.eq]
      rfl
  | stop => rfl
  | close =>
      rw [perform, stageAfter_eq rfl]
      rw [bind_apply, closing]
      rfl
  | sleep hsleep =>
      rw [perform, stageAfter_eq rfl]
      rw [bind_apply, hsleep.eq]
      rfl
  | send hsend =>
      rw [perform, stageAfter_eq rfl]
      simp only []
      rw [bind_apply, Sender.send, hsend.eq]
      rfl

theorem exists_performs (hold : Bool) (sender : Sender) (stage : Stage) (command : Command) :
    ∃ log answer final, Performs hold sender stage command log answer final := by
  cases command with
  | run =>
      obtain ⟨log, result, final, hrun⟩ := exists_runs hold sender stage
      exact ⟨_, _, _, .run hrun⟩
  | stop times => exact ⟨_, _, _, .stop⟩
  | close => exact ⟨_, _, _, .close⟩
  | sleep delay =>
      obtain ⟨log, result, hsleep⟩ := exists_sleeps sender delay stage
      exact ⟨_, _, _, .sleep hsleep⟩
  | send =>
      obtain ⟨log, result, final, hsend⟩ := exists_sends hold sender.policy.backoff
        sender.policy.limit sender stage
      exact ⟨_, _, _, .send hsend⟩

/-- No command changes what a sender is to do. -/
theorem Performs.keeps_settings (h : Performs hold sender stage command log answer final) :
    final.config = sender.config ∧ final.policy = sender.policy := by
  cases h with
  | run hrun =>
      cases hrun with
      | failed hsend => exact ⟨hsend.keeps.config, hsend.keeps.policy⟩
      | cutShort hsend => exact ⟨hsend.keeps.config, hsend.keeps.policy⟩
      | complete hsend => exact ⟨hsend.keeps.config, hsend.keeps.policy⟩
  | send hsend => exact ⟨hsend.keeps.config, hsend.keeps.policy⟩
  | stop => exact ⟨rfl, rfl⟩
  | close => exact ⟨rfl, rfl⟩
  | sleep => exact ⟨rfl, rfl⟩

end Soundness

/-! ## Whole histories -/

/-- One command of a history, with what it met and what came of it. -/
structure Step where
  command : Command
  /-- The sender that was asked. -/
  sender : Sender
  /-- The stage on which it was asked. -/
  stage : Stage
  act : Act

/-- The history of the commands, carried out one after the other. -/
def steps (hold : Bool) : List Command → Sender → Stage → List Step
  | [], _, _ => []
  | command :: commands, sender, stage =>
    let ((answer, final), after) := sender.perform hold command stage
    { command, sender, stage
      act := { answer, sender := final, stopRequested := after.stopRequested
               events := after.events.toList.drop stage.events.size } } ::
      steps hold commands final after

/-- What the commands leave behind: the sender, and the stage. -/
def reached (hold : Bool) : List Command → Sender → Stage → Sender × Stage
  | [], sender, stage => (sender, stage)
  | command :: commands, sender, stage =>
    let ((_, final), after) := sender.perform hold command stage
    reached hold commands final after

/-- The act that a command comes to. -/
def performAct (stage : Stage) (command : Command) (log : List Event)
    (answer : Except SenderError Answer) (final : Sender) : Act where
  answer := answer
  sender := final
  stopRequested := (stageAfter stage command log).stopRequested
  events := log

/-- The step that a command comes to. -/
def performStep (sender : Sender) (stage : Stage) (command : Command) (log : List Event)
    (answer : Except SenderError Answer) (final : Sender) : Step :=
  ⟨command, sender, stage, performAct stage command log answer final⟩

section Cons

variable {hold : Bool} {sender final : Sender} {stage : Stage} {command : Command}
  {log : List Event} {answer : Except SenderError Answer}

theorem rehearse_cons (h : Performs hold sender stage command log answer final)
    (commands : List Command) :
    rehearse hold (command :: commands) sender stage =
      performAct stage command log answer final ::
        rehearse hold commands final (stageAfter stage command log) := by
  rw [rehearse, h.eq]
  simp only [drop_events_stageAfter]
  rfl

theorem steps_cons (h : Performs hold sender stage command log answer final)
    (commands : List Command) :
    steps hold (command :: commands) sender stage =
      performStep sender stage command log answer final ::
        steps hold commands final (stageAfter stage command log) := by
  rw [steps, h.eq]
  simp only [drop_events_stageAfter]
  rfl

theorem reached_cons (h : Performs hold sender stage command log answer final)
    (commands : List Command) :
    reached hold (command :: commands) sender stage =
      reached hold commands final (stageAfter stage command log) := by
  rw [reached, h.eq]

end Cons

/-- The acts of a history are those of the rehearsal. -/
theorem map_act_steps (hold : Bool) (commands : List Command) (sender : Sender) (stage : Stage) :
    (steps hold commands sender stage).map Step.act = rehearse hold commands sender stage := by
  induction commands generalizing sender stage with
  | nil => rfl
  | cons command commands ih =>
      obtain ⟨log, answer, final, h⟩ := exists_performs hold sender stage command
      rw [steps_cons h, rehearse_cons h, List.map_cons, ih]
      rfl

/-- A history that goes on is rehearsed from where it has come to. -/
theorem rehearse_append (hold : Bool) (first rest : List Command) (sender : Sender)
    (stage : Stage) :
    rehearse hold (first ++ rest) sender stage =
      rehearse hold first sender stage ++
        rehearse hold rest (reached hold first sender stage).1
          (reached hold first sender stage).2 := by
  induction first generalizing sender stage with
  | nil => rfl
  | cons command first ih =>
      obtain ⟨log, answer, final, h⟩ := exists_performs hold sender stage command
      rw [List.cons_append, rehearse_cons h, rehearse_cons h, reached_cons h, List.cons_append, ih]

end Sender

end Heartbeat
