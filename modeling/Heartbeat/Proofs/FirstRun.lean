import Heartbeat.Proofs.ProgressLine
import Heartbeat.Proofs.RunLog
import Mathlib.Logic.ExistsUnique

/-!
# How a first run ends

A sender that has just been set up is asked to stop any number of times, none included, and then
runs, while its script lays down what becomes of every datagram and where further stop requests
fall. The run ends in exactly one of three ways (`firstRun_ends`): it is complete, it is cut short
by a stop request, or it fails with an error. Each way fixes the answer, what was written, and
whether the sender counts as interrupted, by the number of datagrams that went out. A datagram that
was refused is an error only after all the attempts that the policy allows.

The three meet at the edges. A stop during the last datagram leaves the run complete, a stop during
the last attempt of a datagram does not hide its error, and a run of no datagrams is complete
whatever happens.
-/

namespace Heartbeat

/-- The configuration that the default settings describe. -/
def Config.standard : Config where
  server := "127.0.0.1"
  port := 5556
  port_le := by decide
  count := 10
  interval := 1
  interval_not_negative := by decide +kernel
  retries := 0
  retryBackoff := 0.5
  retryBackoff_not_negative := by decide +kernel

/-- The default settings lie in their ranges. -/
theorem Settings.check_default : check {} = .ok Config.standard := by
  rw [check, dif_pos (by decide), if_neg (by decide), dif_neg (by decide +kernel),
    if_neg (by decide), dif_neg (by decide +kernel)]
  rfl

namespace Log

/-- How often a datagram was handed to the network. -/
def attemptCount (log : List Event) : Nat := log.countP Event.isAttempt

theorem attemptCount_append (first rest : List Event) :
    attemptCount (first ++ rest) = attemptCount first + attemptCount rest :=
  List.countP_append

end Log

namespace Script

/-- What becomes of the attempt at a position of a run. -/
def deliveryAt (script : Script) (position : Nat) : Delivery :=
  (script.sends.getD position {}).delivery

theorem sends_after (script : Script) (log : List Event) :
    (script.after log).sends = script.sends.drop (Log.attemptCount log) := by
  induction log generalizing script with
  | nil => rfl
  | cons event log ih =>
      rw [after_cons, ih, Log.attemptCount, Log.attemptCount, List.countP_cons]
      cases event <;> simp [next, Event.isAttempt]

end Script

/-- The fault of an attempt is the one that the script lays down for its position. -/
theorem Stage.deliveryAt_of_refused {stage : Stage} {log : List Event} {fault : Fault}
    (h : (stage.after log).outcome = .error fault) :
    stage.script.deliveryAt (Log.attemptCount log) = .refused fault := by
  have hcue : (stage.after log).script.sends.headD {} =
      stage.script.sends.getD (Log.attemptCount log) {} := by
    rw [script_after, Script.sends_after, List.headD_eq_head?_getD, List.head?_drop,
      List.getD_eq_getElem?_getD]
  unfold outcome at h
  rw [hcue] at h
  unfold Script.deliveryAt
  split at h
  · cases h
  · cases h
  · next hdelivery => cases h; exact hdelivery

namespace Sender

/-! ## The first run -/

/-- The first run of a sender: it is set up, asked to stop so many times, and then runs. There is
none if the sender cannot be set up. -/
def firstRun (hold given : Bool) (config : Config) (policy : RetryPolicy) (script : Script)
    (stops : Nat) : Option Act :=
  match create (rehearsal hold) config policy given { script } with
  | (.error _, _) => none
  | (.ok sender, stage) => (rehearse hold [.stop stops, .run] sender stage)[1]?

/-- A sender can be set up: the server resolves, and neither the socket nor the wake pair
fails. -/
structure Ready (given : Bool) (config : Config) (script : Script) (destination : Endpoint) :
    Prop where
  resolved : Endpoint.resolve? config.server config.port = some destination
  socket : socketFault? given script = none
  wakePair : script.wakePairFault = none

/-- The stage on which a first run begins. -/
def openingStage (given : Bool) (script : Script) (stops : Nat) : Stage :=
  (({ script } : Stage).after (socketLog given)).stop stops

theorem script_openingStage (given : Bool) (script : Script) (stops : Nat) :
    (openingStage given script stops).script = script := by
  cases given <;> rfl

theorem stopRequested_openingStage (given : Bool) (script : Script) (stops : Nat) :
    (openingStage given script stops).stopRequested = decide (0 < stops) := by
  cases given <;> rfl

/-- The act that a run comes to. -/
def runAct (stage : Stage) (log : List Event) (result : Except SenderError Nat)
    (final : Sender) : Act where
  answer := result.map .sent
  sender := final
  stopRequested := (stage.after log).stopRequested
  events := log

theorem firstRun_of_runs {hold given : Bool} {config : Config} {policy : RetryPolicy}
    {script : Script} {stops : Nat} {destination : Endpoint} {log : List Event}
    {result : Except SenderError Nat} {final : Sender}
    (hready : Ready given config script destination)
    (hrun : Runs hold { config, policy, destination } (openingStage given script stops) log
      result final) :
    firstRun hold given config policy script stops =
      some (runAct (openingStage given script stops) log result final) := by
  rw [firstRun, create_apply, hready.resolved]
  simp only [hready.socket, hready.wakePair]
  show (rehearse hold [.run] _ (openingStage given script stops))[0]? = _
  have hperform : perform hold .run { config, policy, destination }
      (openingStage given script stops) =
      ((result.map .sent, final), (openingStage given script stops).after log) := by
    rw [perform]
    simp only []
    rw [bind_apply, hrun.eq]
    rfl
  simp only [rehearse, hperform, Stage.drop_events_after]
  rfl

/-! ## The three ways in which it ends -/

/-- How a first run ends. -/
inductive RunEnding where
  | complete
  | cutShort
  | failed
  deriving DecidableEq

/-- What each of the ways means for the answer, the number of datagrams that went out, what was
written, and the mark of an interrupted run. -/
def Act.EndsBy (count limit : Nat) (script : Script) (act : Act) : RunEnding → Prop
  | .complete =>
    act.answer = .ok (.sent count) ∧ Log.sentCount act.events = count ∧
      Log.texts act.events = (List.range count).map (progressText count) ++ [completeText] ∧
      (Log.texts act.events).count completeText = 1 ∧ act.sender.interrupted = false
  | .cutShort =>
    ∃ sent < count, act.answer = .ok (.sent sent) ∧ Log.sentCount act.events = sent ∧
      act.stopRequested = true ∧
      Log.texts act.events = (List.range sent).map (progressText count) ∧
      completeText ∉ Log.texts act.events ∧ act.sender.interrupted = true
  | .failed =>
    ∃ error, ∃ sent ≤ count, act.answer = .error error ∧ Log.sentCount act.events = sent ∧
      Log.texts act.events = (List.range sent).map (progressText count) ∧
      completeText ∉ Log.texts act.events ∧ act.sender.interrupted = false ∧
      ∀ fault, error = .notSent fault →
        sent < count ∧ Log.failuresInARow act.events = limit + 1 ∧
          script.deliveryAt (Log.attemptCount act.events - 1) = .refused fault

theorem completeText_notMem (count : Nat) {sent : Nat} (hle : sent ≤ count) :
    completeText ∉ (List.range sent).map (progressText count) := by
  intro hmem
  obtain ⟨index, hindex, htext⟩ := List.mem_map.mp hmem
  have hlt : index < count := Nat.lt_of_lt_of_le (List.mem_range.mp hindex) hle
  exact Progress.line_ne_completeLine hlt ((String.append_left_inj _).mp htext)

/-- What a run writes before it is judged is the progress lines of its datagrams. -/
theorem SendsAll.texts_of_whole {hold : Bool} {sender final : Sender} {stage : Stage}
    {log : List Event} {result : Except SenderError Unit}
    (h : SendsAll hold sender.config.count sender stage log result final) :
    Log.texts log =
      (List.range (Log.sentCount log)).map (progressText sender.config.count) := by
  rw [h.texts_eq (Nat.le_refl _), Nat.sub_self, List.range_eq_range']

section Ends

variable {hold : Bool} {sender final : Sender} {stage : Stage} {log : List Event}

theorem SendsAll.endsComplete
    (h : SendsAll hold sender.config.count sender stage log (.ok ()) final)
    (hfresh : sender.interrupted = false) (hnone : sender.tally.datagrams = 0)
    (hall : final.config.count ≤ final.tally.datagrams) :
    (runAct stage (log ++ [completeEvent, .closed]) (.ok final.tally.datagrams)
      { final with closed := true }).EndsBy sender.config.count sender.policy.limit stage.script
      .complete := by
  have hkeeps := h.keeps
  have hsent : Log.sentCount log = sender.config.count := by
    have hle := h.sentCount_le
    rw [hkeeps.config, hkeeps.datagrams, hnone] at hall
    omega
  have htexts : Log.texts (log ++ [completeEvent, .closed]) =
      (List.range sender.config.count).map (progressText sender.config.count) ++
        [completeText] := by
    rw [Log.texts_append, h.texts_of_whole, hsent]
    rfl
  refine ⟨?_, ?_, htexts, ?_, hkeeps.interrupted.trans hfresh⟩
  · show Except.ok (Answer.sent final.tally.datagrams) = _
    rw [hkeeps.datagrams, hnone, hsent, Nat.zero_add]
  · show Log.sentCount (log ++ [completeEvent, .closed]) = _
    rw [Log.sentCount_append, hsent]
    rfl
  · show (Log.texts (log ++ [completeEvent, .closed])).count completeText = 1
    rw [htexts, List.count_append, List.count_singleton_self,
      List.count_eq_zero.mpr (completeText_notMem _ (Nat.le_refl _))]

theorem SendsAll.endsCutShort
    (h : SendsAll hold sender.config.count sender stage log (.ok ()) final)
    (hnone : sender.tally.datagrams = 0)
    (hfew : final.tally.datagrams < final.config.count) :
    (runAct stage (log ++ [.closed]) (.ok final.tally.datagrams)
      { final with interrupted := true, closed := true }).EndsBy sender.config.count
      sender.policy.limit stage.script .cutShort := by
  have hkeeps := h.keeps
  rw [hkeeps.config, hkeeps.datagrams, hnone, Nat.zero_add] at hfew
  have htexts : Log.texts (log ++ [.closed]) =
      (List.range (Log.sentCount log)).map (progressText sender.config.count) := by
    rw [Log.texts_append, h.texts_of_whole]
    exact List.append_nil _
  refine ⟨Log.sentCount log, hfew, ?_, ?_, ?_, htexts, ?_, rfl⟩
  · show Except.ok (Answer.sent final.tally.datagrams) = _
    rw [hkeeps.datagrams, hnone, Nat.zero_add]
  · exact Log.sentCount_append _ _
  · show (stage.after (log ++ [.closed])).stopRequested = true
    rw [Stage.after_append]
    exact (Bool.or_false _).trans (h.stop_of_ok hfew)
  · show completeText ∉ Log.texts (log ++ [.closed])
    rw [htexts]
    exact completeText_notMem _ (Nat.le_of_lt hfew)

theorem SendsAll.endsFailed {error : SenderError}
    (h : SendsAll hold sender.config.count sender stage log (.error error) final)
    (hfresh : sender.interrupted = false) :
    (runAct stage (log ++ [.closed]) (.error error) { final with closed := true }).EndsBy
      sender.config.count sender.policy.limit stage.script .failed := by
  have hle := h.sentCount_le
  have htexts : Log.texts (log ++ [.closed]) =
      (List.range (Log.sentCount log)).map (progressText sender.config.count) := by
    rw [Log.texts_append, h.texts_of_whole]
    exact List.append_nil _
  refine ⟨error, Log.sentCount log, hle, rfl, ?_, htexts, ?_, ?_, ?_⟩
  · exact Log.sentCount_append _ _
  · show completeText ∉ Log.texts (log ++ [.closed])
    rw [htexts]
    exact completeText_notMem _ hle
  · exact h.keeps.interrupted.trans hfresh
  · rintro fault rfl
    obtain ⟨hsent, hfailures, earlier, rfl, hout⟩ := h.of_notSent
    refine ⟨hsent, ?_, ?_⟩
    · show Log.failuresInARow (earlier ++ [_] ++ [.closed]) = _
      rw [Log.failuresInARow_append, hfailures]
      rfl
    · show stage.script.deliveryAt (Log.attemptCount (earlier ++ [_] ++ [.closed]) - 1) = _
      rw [Log.attemptCount_append, Log.attemptCount_append]
      exact Stage.deliveryAt_of_refused hout

/-- A run of a sender that has sent nothing yet ends in one of the three ways. -/
theorem Runs.exists_endsBy {result : Except SenderError Nat}
    (h : Runs hold sender stage log result final) (hfresh : sender.interrupted = false)
    (hnone : sender.tally.datagrams = 0) :
    ∃ ending, (runAct stage log result final).EndsBy sender.config.count sender.policy.limit
      stage.script ending := by
  cases h with
  | failed hsend => exact ⟨.failed, hsend.endsFailed hfresh⟩
  | cutShort hsend hfew => exact ⟨.cutShort, hsend.endsCutShort hnone hfew⟩
  | complete hsend hall => exact ⟨.complete, hsend.endsComplete hfresh hnone hall⟩

/-- A run is that of its loop and an ending, which the tally does not see. -/
theorem Runs.exists_body {result : Except SenderError Nat}
    (h : Runs hold sender stage log result final) :
    ∃ body loopResult loopFinal ending,
      SendsAll hold sender.config.count sender stage body loopResult loopFinal ∧
      log = body ++ ending ∧ (ending = [.closed] ∨ ending = [completeEvent, .closed]) ∧
      final.tally = loopFinal.tally ∧
      ∀ error, loopResult = .error error ↔ result = .error error := by
  cases h with
  | failed hsend => exact ⟨_, _, _, _, hsend, rfl, .inl rfl, rfl, by simp⟩
  | cutShort hsend => exact ⟨_, _, _, _, hsend, rfl, .inl rfl, rfl, by simp⟩
  | complete hsend => exact ⟨_, _, _, _, hsend, rfl, .inr rfl, rfl, by simp⟩

/-- A run is that of its loop, the line of a complete run if it is one, and the close. -/
theorem Runs.exists_sendsAll {result : Except SenderError Nat}
    (h : Runs hold sender stage log result final) :
    ∃ body loopResult loopFinal ending,
      SendsAll hold sender.config.count sender stage body loopResult loopFinal ∧
      log = body ++ ending ++ [.closed] ∧ (ending = [] ∨ ending = [completeEvent]) := by
  obtain ⟨body, _, _, ending, hsend, rfl, rfl | rfl, -⟩ := h.exists_body
  · exact ⟨_, _, _, [], hsend, by simp, .inl rfl⟩
  · exact ⟨_, _, _, [completeEvent], hsend, by simp, .inr rfl⟩

theorem Runs.bySending {result : Except SenderError Nat}
    (h : Runs hold sender stage log result final) :
    ∀ event ∈ log, event.BySending sender.destination ∨ event = .closed := by
  obtain ⟨body, _, _, ending, hsend, rfl, hending⟩ := h.exists_sendsAll
  intro event hevent
  rcases List.mem_append.mp hevent with hfirst | hclosed
  · rcases List.mem_append.mp hfirst with hbody | hmem
    · exact .inl (hsend.bySending event hbody)
    · rcases hending with rfl | rfl
      · cases hmem
      · rw [List.mem_singleton.mp hmem]
        exact .inl trivial
  · exact .inr (List.mem_singleton.mp hclosed)

theorem Runs.goesTo {result : Except SenderError Nat}
    (h : Runs hold sender stage log result final) :
    ∀ event ∈ log, event.GoesTo sender.destination := by
  intro event hevent
  rcases h.bySending event hevent with hsending | rfl
  · exact hsending.goesTo
  · trivial

/-- A run writes nothing to the standard error output. -/
theorem Runs.errorOutput {result : Except SenderError Nat}
    (h : Runs hold sender stage log result final) : ∀ event ∈ log, event.errorOutput = "" := by
  intro event hevent
  rcases h.bySending event hevent with hsending | rfl
  · exact hsending.errorOutput
  · rfl

/-- Unless a run ends because a datagram was refused, it has not used up the attempts for its last
datagram. -/
theorem Runs.failures_le {result : Except SenderError Nat}
    (h : Runs hold sender stage log result final)
    (hleft : ∀ fault, result ≠ .error (.notSent fault)) :
    Log.failuresInARow log ≤ sender.policy.limit := by
  cases h with
  | failed hsend =>
      rw [Log.failuresInARow_append]
      exact hsend.failures_le fun fault heq => hleft fault (by cases heq; rfl)
  | cutShort hsend =>
      rw [Log.failuresInARow_append]
      exact hsend.failures_le (by simp)
  | complete hsend =>
      rw [Log.failuresInARow_append]
      exact hsend.failures_le (by simp)

/-- The errors of a run that are reported are those of refused datagrams. -/
theorem Runs.error_cases {error : SenderError}
    (h : Runs hold sender stage log (.error error) final) :
    (∃ fault, error = .notSent fault) ∨ error.isReported = false := by
  cases h with
  | failed hsend => exact hsend.error_cases

end Ends

/-- The way in which an act can have ended, by its answer. -/
def Act.ending (count : Nat) (act : Act) : RunEnding :=
  match act.answer with
  | .ok (.sent datagrams) => if datagrams < count then .cutShort else .complete
  | _ => .failed

/-- No act ends in two of the ways: only one of them is an error, and of the other two only one
sends all the datagrams. -/
theorem Act.EndsBy.eq_ending {count limit : Nat} {script : Script} {act : Act}
    {ending : RunEnding} (h : act.EndsBy count limit script ending) :
    ending = act.ending count := by
  cases ending with
  | complete =>
      obtain ⟨hanswer, -⟩ := h
      rw [Act.ending, hanswer]
      exact (if_neg (Nat.lt_irrefl count)).symm
  | cutShort =>
      obtain ⟨sent, hlt, hanswer, -⟩ := h
      rw [Act.ending, hanswer]
      exact (if_pos hlt).symm
  | failed =>
      obtain ⟨error, sent, -, hanswer, -⟩ := h
      rw [Act.ending, hanswer]

/-- A sender that can be set up has a first run, all its datagrams are heartbeats for where the
server resolves to, and it ends in exactly one of the three ways. A stop is pending at its end if
one was requested before or during it. -/
theorem firstRun_ends (hold given : Bool) (config : Config) (policy : RetryPolicy)
    (script : Script) (stops : Nat) (destination : Endpoint)
    (hready : Ready given config script destination) :
    ∃ act, firstRun hold given config policy script stops = some act ∧
      act.stopRequested = (decide (0 < stops) || script.stopsWithin act.events) ∧
      (∀ event ∈ act.events, event.GoesTo destination) ∧
      ∃! ending, act.EndsBy config.count policy.limit script ending := by
  obtain ⟨log, result, final, hrun⟩ := exists_runs hold { config, policy, destination }
    (openingStage given script stops)
  refine ⟨_, firstRun_of_runs hready hrun, ?_, hrun.goesTo, ?_⟩
  · show ((openingStage given script stops).after log).stopRequested = _
    rw [Stage.stopRequested_after, script_openingStage, stopRequested_openingStage]
    rfl
  · obtain ⟨ending, hending⟩ := hrun.exists_endsBy rfl rfl
    rw [script_openingStage] at hending
    exact ⟨ending, hending, fun other hother => hother.eq_ending.trans hending.eq_ending.symm⟩

/-- The first datagram is refused once, and a stop request meets the second. -/
theorem firstRun_ends_of_standard :
    ∃ destination, Ready false Config.standard
      { sends := [⟨.refused .silent, 0⟩, ⟨.whole, 0⟩, ⟨.refused .silent, 1⟩] } destination ∧
    ∃ act, firstRun false false Config.standard { retries := 1 }
        { sends := [⟨.refused .silent, 0⟩, ⟨.whole, 0⟩, ⟨.refused .silent, 1⟩] } 0 = some act ∧
      act.stopRequested = (decide (0 < 0) || Script.stopsWithin
        { sends := [⟨.refused .silent, 0⟩, ⟨.whole, 0⟩, ⟨.refused .silent, 1⟩] } act.events) ∧
      (∀ event ∈ act.events, event.GoesTo destination) ∧
      ∃! ending, act.EndsBy Config.standard.count (RetryPolicy.limit { retries := 1 })
        { sends := [⟨.refused .silent, 0⟩, ⟨.whole, 0⟩, ⟨.refused .silent, 1⟩] } ending := by
  have hready : Ready false Config.standard
      { sends := [⟨.refused .silent, 0⟩, ⟨.whole, 0⟩, ⟨.refused .silent, 1⟩] }
      ⟨"127.0.0.1", 5556⟩ := ⟨by decide +kernel, rfl, rfl⟩
  exact ⟨_, hready, firstRun_ends false false Config.standard { retries := 1 } _ 0 _ hready⟩

end Sender

end Heartbeat
