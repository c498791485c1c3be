import Heartbeat.Proofs.TallyRecord

/-!
# Runs of a sender that has run before

A run is judged by all the datagrams that its sender has sent, those of earlier runs among them. So
a run that a stop request ends early counts as interrupted, and does not write the line of a
complete run, as long as all runs together have sent fewer datagrams than one of them should
(`further_run`). From then on it is the other way round: a stopped run writes the line, and leaves
the mark of an interrupted run as it finds it (`stopped_run_after_complete_run`).
-/

namespace Heartbeat

namespace Sender

variable {hold : Bool} {sender final : Sender} {stage : Stage} {log : List Event}

theorem reached_config (hold : Bool) (commands : List Command) (sender : Sender)
    (stage : Stage) : (reached hold commands sender stage).1.config = sender.config := by
  induction commands generalizing sender stage with
  | nil => rfl
  | cons command commands ih =>
      obtain ⟨log, answer, final, hperform⟩ := exists_performs hold sender stage command
      rw [reached_cons hperform, ih, hperform.keeps_settings.1]

/-- What it means for a run to be judged by the datagrams of all runs, `total` of them: with fewer
than the count it is marked as interrupted, and otherwise it writes the line of a complete run and
leaves the mark as it was. -/
def Act.JudgedBy (count total : Nat) (before : Bool) (act : Act) : Prop :=
  (total < count → completeText ∉ Log.texts act.events ∧ act.sender.interrupted = true) ∧
    (count ≤ total → completeText ∈ Log.texts act.events ∧ act.sender.interrupted = before)

/-- A run that ends without an error is judged by all the datagrams that its sender has sent, and
if it has not sent all its own a stop has been requested. -/
theorem Runs.judgedBy {sent : Nat} (h : Runs hold sender stage log (.ok sent) final) :
    sent = sender.tally.datagrams + Log.sentCount log ∧
      (runAct stage log (.ok sent) final).JudgedBy sender.config.count sent sender.interrupted ∧
      (Log.sentCount log < sender.config.count → (stage.after log).stopRequested = true) := by
  cases h with
  | @cutShort body loopFinal hsend hfew =>
      have hkeeps := hsend.keeps
      have hsent : Log.sentCount (body ++ [.closed]) = Log.sentCount body :=
        Log.sentCount_append _ _
      rw [hkeeps.config] at hfew
      refine ⟨hsent ▸ hkeeps.datagrams, ⟨fun _ => ⟨?_, rfl⟩, fun hle => by omega⟩, ?_⟩
      · show completeText ∉ Log.texts (body ++ [.closed])
        rw [Log.texts_append, hsend.texts_of_whole]
        show completeText ∉ _ ++ []
        rw [List.append_nil]
        exact completeText_notMem _ hsend.sentCount_le
      · intro hlt
        rw [hsent] at hlt
        rw [Stage.after_append]
        exact (Bool.or_false _).trans (hsend.stop_of_ok hlt)
  | @complete body loopFinal hsend hall =>
      have hkeeps := hsend.keeps
      have hsent : Log.sentCount (body ++ [completeEvent, .closed]) = Log.sentCount body :=
        Log.sentCount_append _ _
      rw [hkeeps.config] at hall
      refine ⟨hsent ▸ hkeeps.datagrams, ⟨fun hlt => by omega, fun _ => ⟨?_, ?_⟩⟩, ?_⟩
      · show completeText ∈ Log.texts (body ++ [completeEvent, .closed])
        rw [Log.texts_append]
        exact List.mem_append_right _ List.mem_cons_self
      · exact hkeeps.interrupted
      · intro hlt
        rw [hsent] at hlt
        rw [Stage.after_append]
        show ((_ || false) || false) = true
        rw [Bool.or_false, Bool.or_false]
        exact hsend.stop_of_ok hlt

/-- After any commands, a further run that ends without an error before it has itself sent all its
datagrams has been stopped. It is marked as interrupted, and does not claim to be complete, exactly
as long as all runs together have sent fewer datagrams than the count. -/
theorem further_run (hold : Bool) (config : Config) (policy : RetryPolicy)
    (destination : Endpoint) (opening : Stage) (commands : List Command) :
    ∃ act, rehearse hold (commands ++ [.run]) { config, policy, destination } opening =
        rehearse hold commands { config, policy, destination } opening ++ [act] ∧
      ∀ total, act.answer = .ok (.sent total) → Log.sentCount act.events < config.count →
        act.stopRequested = true ∧
          total = Log.sentCount
              (runEvents (steps hold commands { config, policy, destination } opening)) +
            Log.sentCount act.events ∧
          act.JudgedBy config.count total
            (reached hold commands { config, policy, destination } opening).1.interrupted := by
  have hagrees := agrees_reached hold commands { config, policy, destination } opening
  have hconfig := reached_config hold commands { config, policy, destination } opening
  have happend := rehearse_append hold commands [.run] { config, policy, destination } opening
  generalize reached hold commands { config, policy, destination } opening = before at *
  obtain ⟨sender, stage⟩ := before
  obtain ⟨log, result, final, hrun⟩ := exists_runs hold sender stage
  refine ⟨performAct stage .run log (result.map .sent) final, ?_, ?_⟩
  · rw [happend, rehearse_cons (.run hrun)]
    rfl
  · intro total hanswer hfew
    have hresult : result = .ok total := by
      cases result with
      | error error => cases hanswer
      | ok sent => cases hanswer; rfl
    subst hresult
    obtain ⟨htotal, hjudged, hstop⟩ := hrun.judgedBy
    have hdatagrams := hagrees.datagrams.trans (Nat.zero_add _)
    rw [hconfig] at hjudged hstop
    refine ⟨?_, hdatagrams ▸ htotal, hjudged⟩
    show (stageAfter stage .run log).stopRequested = true
    rw [stageAfter_eq rfl]
    exact hstop hfew

/-- One datagram goes out and the run is complete. A stop is requested, and the next run ends
before it has sent anything; it writes the line of a complete run and is not marked. -/
theorem stopped_run_after_complete_run :
    ∃ act, (rehearse false [.run, .stop 1, .run]
        { config := { Config.standard with count := 1 }, policy := {}
          destination := ⟨"127.0.0.1", 5556⟩ } { script := {} })[2]? = some act ∧
      act.answer.toOption = some (.sent 1) ∧ Log.sentCount act.events = 0 ∧
      act.stopRequested = true ∧
      Log.texts act.events = [completeText] ∧ act.sender.interrupted = false := by
  refine ⟨_, rfl, ?_⟩
  decide +kernel

end Sender

end Heartbeat
