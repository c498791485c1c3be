import Heartbeat.Proofs.FirstRun
import Heartbeat.Proofs.History
import Heartbeat.Proofs.Refusals

/-!
# What the tally records

The tally of a sender is checked against the history of its commands: the failures are the refused
datagrams, the retries are the pauses begun before one, and the datagrams and bytes are those that
went out in runs, each with a line of its own (`tally_agrees`). A pause before a retry is seen where
the surroundings hold the sender back; where it waits, a pause may be for no time and leave nothing,
and is known by the refused attempt that it follows.

A run or a send has at most one refused attempt without a pause behind it, and has one just when it
ends with the error of a refused datagram or gives a retry up at a stop request.
-/

namespace Heartbeat

namespace Event

/-- Was the sender held back before a retry? -/
def isHeldBack : Event → Bool
  | heldBack _ => true
  | _ => false

/-- The byte count that the network reported, if a datagram went out. -/
def bytes : Event → Int
  | sent _ _ bytes => bytes
  | _ => 0

end Event

namespace Log

/-- The bytes of all datagrams that went out, by the counts that the network reported. -/
def sentBytes (log : List Event) : Int := log.foldr (fun event total => event.bytes + total) 0

/-- How often the sender was held back before a retry. -/
def heldBackCount (log : List Event) : Nat := log.countP Event.isHeldBack

/-- How many lines were written, that of a complete run left out. -/
def lineCount (log : List Event) : Nat := (texts log).countP (· ≠ Sender.completeText)

theorem sentBytes_append (first rest : List Event) :
    sentBytes (first ++ rest) = sentBytes first + sentBytes rest := by
  induction first with
  | nil => exact (Int.zero_add _).symm
  | cons event first ih =>
      show event.bytes + sentBytes (first ++ rest) = event.bytes + sentBytes first + sentBytes rest
      rw [ih, Int.add_assoc]

theorem heldBackCount_append (first rest : List Event) :
    heldBackCount (first ++ rest) = heldBackCount first + heldBackCount rest :=
  List.countP_append

theorem lineCount_append (first rest : List Event) :
    lineCount (first ++ rest) = lineCount first + lineCount rest := by
  rw [lineCount, texts_append, List.countP_append]
  rfl

end Log

namespace Sender

variable {hold : Bool} {sender final : Sender} {stage : Stage} {log : List Event}

/-! ## The other counts of a run or a send -/

theorem Sleeps.heldBackCount_eq {delay : Binary64} {result : Except SenderError Bool}
    (h : Sleeps sender delay stage log result) : Log.heldBackCount log = 0 := by
  cases h with
  | pending => rfl
  | failed => rfl
  | waited =>
      unfold waitLog
      split
      · rfl
      · rfl

/-- A pause before a retry that is not a wait is seen once. -/
theorem Pauses.heldBackCount_eq {delay : Binary64} {result : Except SenderError Unit}
    (h : Pauses sender delay stage true log result) : Log.heldBackCount log = 1 := by
  cases h with
  | heldBack => rfl

theorem heldBackCount_refused_pause {delay : Binary64} {result : Except SenderError Unit}
    {pause : List Event} {paused : Sender} {at_ : Stage}
    (h : Pauses paused delay at_ true pause result) :
    Log.heldBackCount (sender.refusedEvent :: pause) = 1 := h.heldBackCount_eq

theorem Sends.heldBackCount_eq {delay : Binary64} {retries : Nat}
    {result : Except SenderError (Option Int)}
    (h : Sends true delay retries sender stage log result final) :
    final.tally.retries = sender.tally.retries + Log.heldBackCount log := by
  induction h with
  | delivered => rfl
  | exhausted => rfl
  | abandoned => rfl
  | notPaused _ _ hpause => rw [heldBackCount_refused_pause hpause]; rfl
  | abandonedInPause _ _ hpause _ => rw [heldBackCount_refused_pause hpause]; rfl
  | retried _ _ hpause _ _ ih =>
      rw [ih, Log.heldBackCount_append, heldBackCount_refused_pause hpause, ← Nat.add_assoc]
      rfl

theorem Sends.bytes_eq {delay : Binary64} {retries : Nat}
    {result : Except SenderError (Option Int)}
    (h : Sends hold delay retries sender stage log result final) :
    final.tally.bytes = sender.tally.bytes := by
  induction h with
  | retried _ _ _ _ _ ih => exact ih
  | _ => rfl

theorem Setback.bytes_eq {event : Event} (h : Setback sender event) : event.bytes = 0 := by
  rcases h with rfl | hpause
  · rfl
  · obtain ⟨seconds, rfl | rfl⟩ := Event.eq_of_isPause hpause
    · rfl
    · rfl

theorem sentBytes_of_setback (h : ∀ event ∈ log, Setback sender event) :
    Log.sentBytes log = 0 := by
  induction log with
  | nil => rfl
  | cons event log ih =>
      have hrest := ih fun event hmem => h event (List.mem_cons_of_mem _ hmem)
      show event.bytes + Log.sentBytes log = 0
      rw [(h event List.mem_cons_self).bytes_eq, hrest]
      rfl

theorem Sends.sentBytes_eq {delay : Binary64} {retries : Nat}
    {result : Except SenderError (Option Int)}
    (h : Sends hold delay retries sender stage log result final) :
    Log.sentBytes log = Log.sentBytes (sender.sentLog result) := by
  obtain ⟨setbacks, rfl, hsetbacks⟩ := h.log_eq
  rw [Log.sentBytes_append, sentBytes_of_setback hsetbacks, Int.zero_add]

section Turn

variable {remaining : Nat} {bytes : Int} {sent : Sender} {at_ : Stage} {pause : List Event}
  {pausing : Except SenderError Bool}

theorem turn_bytes
    (hsend : Sends hold sender.policy.backoff sender.policy.limit sender stage log
      (.ok (some bytes)) sent)
    (hsleep : Sleeps (sent.countSent bytes) sent.config.interval at_ pause pausing) :
    (sent.countSent bytes).tally.bytes =
      sender.tally.bytes + Log.sentBytes (log ++ [sent.progressEvent remaining] ++ pause) := by
  have hpause : Log.sentBytes pause = 0 :=
    sentBytes_of_setback fun event hmem => (.inr (hsleep.isPause event hmem) : Setback sender event)
  have hlog : Log.sentBytes log = bytes := hsend.sentBytes_eq.trans (Int.add_zero bytes)
  rw [Log.sentBytes_append, Log.sentBytes_append, hpause, hlog, ← hsend.bytes_eq]
  show _ = sent.tally.bytes + (bytes + 0 + 0)
  rw [Int.add_zero, Int.add_zero]
  rfl

theorem turn_heldBackCount
    (hsend : Sends true sender.policy.backoff sender.policy.limit sender stage log
      (.ok (some bytes)) sent)
    (hsleep : Sleeps (sent.countSent bytes) sent.config.interval at_ pause pausing) :
    (sent.countSent bytes).tally.retries =
      sender.tally.retries +
        Log.heldBackCount (log ++ [sent.progressEvent remaining] ++ pause) := by
  rw [Log.heldBackCount_append, Log.heldBackCount_append, hsleep.heldBackCount_eq]
  exact hsend.heldBackCount_eq

end Turn

theorem SendsAll.bytes_eq {remaining : Nat} {result : Except SenderError Unit}
    (h : SendsAll hold remaining sender stage log result final) :
    final.tally.bytes = sender.tally.bytes + Log.sentBytes log := by
  induction h with
  | finished => exact (Int.add_zero _).symm
  | stopped => exact (Int.add_zero _).symm
  | failed _ hsend => rw [hsend.bytes_eq, hsend.sentBytes_eq]; exact (Int.add_zero _).symm
  | abandoned _ hsend => rw [hsend.bytes_eq, hsend.sentBytes_eq]; exact (Int.add_zero _).symm
  | notPaused _ hsend hsleep => exact turn_bytes hsend hsleep
  | stoppedInPause _ hsend hsleep => exact turn_bytes hsend hsleep
  | next _ hsend hsleep _ ih =>
      rw [Log.sentBytes_append, ih, turn_bytes hsend hsleep, Int.add_assoc]

theorem SendsAll.heldBackCount_eq {remaining : Nat} {result : Except SenderError Unit}
    (h : SendsAll true remaining sender stage log result final) :
    final.tally.retries = sender.tally.retries + Log.heldBackCount log := by
  induction h with
  | finished => rfl
  | stopped => rfl
  | failed _ hsend => exact hsend.heldBackCount_eq
  | abandoned _ hsend => exact hsend.heldBackCount_eq
  | notPaused _ hsend hsleep => exact turn_heldBackCount hsend hsleep
  | stoppedInPause _ hsend hsleep => exact turn_heldBackCount hsend hsleep
  | next _ hsend hsleep _ ih =>
      rw [Log.heldBackCount_append, ih, turn_heldBackCount hsend hsleep, Nat.add_assoc]

/-- The lines of a run before it is judged are as many as its datagrams. -/
theorem SendsAll.lineCount_eq {result : Except SenderError Unit}
    (h : SendsAll hold sender.config.count sender stage log result final) :
    Log.lineCount log = Log.sentCount log := by
  have hnot := completeText_notMem sender.config.count h.sentCount_le
  rw [Log.lineCount, h.texts_of_whole, List.countP_eq_length.mpr, List.length_map,
    List.length_range]
  intro text hmem
  rw [decide_eq_true_eq]
  rintro rfl
  exact hnot hmem

/-! ## The tally of a history -/

/-- The refused attempts of a step. -/
def Step.refusals (step : Step) : List Refusal := Log.refusals 0 step.stage step.act.events

/-- All that was done in the steps. -/
def events (steps : List Step) : List Event := steps.flatMap (·.act.events)

/-- All that was done in those of the steps that are runs. -/
def runEvents (steps : List Step) : List Event := events (steps.filter (·.command = .run))

/-- The tally has grown by what the steps record. -/
structure Agrees (hold : Bool) (limit : Nat) (steps : List Step) (before after : Tally) :
    Prop where
  failures : after.failures = before.failures + Log.refusedCount (events steps)
  retries : after.retries =
    before.retries + (steps.flatMap Step.refusals).countP (·.leadsOn limit)
  heldBack : hold = true → after.retries = before.retries + Log.heldBackCount (events steps)
  lines : after.datagrams = before.datagrams + Log.lineCount (events steps)
  datagrams : after.datagrams = before.datagrams + Log.sentCount (runEvents steps)
  bytes : after.bytes = before.bytes + Log.sentBytes (runEvents steps)

/-- The failures and the retries grow by as much, or the failures by one more. They do so just when
a datagram was refused for good, or when a retry that was left was given up. -/
def Step.Balances (limit : Nat) (step : Step) : Prop :=
  ∃ excess ≤ 1,
    (step.act.sender.tally.failures : Int) - step.act.sender.tally.retries =
      step.sender.tally.failures - step.sender.tally.retries + (excess : Nat) ∧
    (excess = 1 ↔ (∃ fault, step.act.answer = .error (.notSent fault)) ∨
      ∃ refusal ∈ step.refusals, refusal.GivesUp limit)

theorem events_append (first rest : List Step) :
    events (first ++ rest) = events first ++ events rest :=
  List.flatMap_append

theorem runEvents_append (first rest : List Step) :
    runEvents (first ++ rest) = runEvents first ++ runEvents rest := by
  rw [runEvents, List.filter_append, events_append]
  rfl

theorem Agrees.nil (hold : Bool) (limit : Nat) (tally : Tally) :
    Agrees hold limit [] tally tally :=
  ⟨rfl, rfl, fun _ => rfl, rfl, rfl, (Int.add_zero _).symm⟩

theorem Agrees.append {limit : Nat} {first rest : List Step} {before middle after : Tally}
    (h : Agrees hold limit first before middle) (h' : Agrees hold limit rest middle after) :
    Agrees hold limit (first ++ rest) before after where
  failures := by
    rw [h'.failures, h.failures, events_append, Log.refusedCount_append, Nat.add_assoc]
  retries := by
    rw [h'.retries, h.retries, List.flatMap_append, List.countP_append, Nat.add_assoc]
  heldBack := by
    intro hhold
    rw [h'.heldBack hhold, h.heldBack hhold, events_append, Log.heldBackCount_append,
      Nat.add_assoc]
  lines := by rw [h'.lines, h.lines, events_append, Log.lineCount_append, Nat.add_assoc]
  datagrams := by
    rw [h'.datagrams, h.datagrams, runEvents_append, Log.sentCount_append, Nat.add_assoc]
  bytes := by
    rw [h'.bytes, h.bytes, runEvents_append, Log.sentBytes_append, Int.add_assoc]

/-! A single step: what it books, and what it counts besides. -/

theorem Books.balances {limit : Nat} {failed stopped : Prop} {step : Step}
    (h : Books limit step.sender step.act.sender failed stopped step.refusals)
    (hfailed : failed ↔ ∃ fault, step.act.answer = .error (.notSent fault)) :
    step.Balances limit := by
  obtain ⟨paid, last, heq, hpaid, hfailures, hretries, hlast⟩ := h
  rw [heq, List.length_append] at hfailures
  -- an attempt that led on to a pause is not one that gave a retry up
  have hkept : ∀ refusal ∈ paid, ¬ refusal.GivesUp limit := by
    intro refusal hmem hgives
    have hleads := hpaid refusal hmem
    simp [Refusal.leadsOn, hgives.2] at hleads
  rw [Step.Balances, ← hfailed, heq]
  cases hlast with
  | none hfine =>
      refine ⟨0, by omega, by simp at hfailures; omega, iff_of_false (by omega) ?_⟩
      rintro (hbad | ⟨refusal, hmem, hgives⟩)
      · exact hfine hbad
      · rw [List.append_nil] at hmem
        exact hkept refusal hmem hgives
  | usedUp hbad =>
      exact ⟨1, Nat.le_refl _, by simp at hfailures; omega, iff_of_true rfl (.inl hbad)⟩
  | givenUp _ _ hle =>
      refine ⟨1, Nat.le_refl _, by simp at hfailures; omega, iff_of_true rfl (.inr ?_)⟩
      exact ⟨_, List.mem_append_right _ List.mem_cons_self, hle, rfl⟩

theorem Books.agrees {limit : Nat} {failed stopped : Prop} {step : Step}
    (h : Books limit step.sender step.act.sender failed stopped step.refusals)
    (hheld : hold = true → step.act.sender.tally.retries =
      step.sender.tally.retries + Log.heldBackCount step.act.events)
    (hlines : step.act.sender.tally.datagrams =
      step.sender.tally.datagrams + Log.lineCount step.act.events)
    (hdatagrams : step.act.sender.tally.datagrams =
      step.sender.tally.datagrams + Log.sentCount (runEvents [step]))
    (hbytes : step.act.sender.tally.bytes =
      step.sender.tally.bytes + Log.sentBytes (runEvents [step])) :
    Agrees hold limit [step] step.sender.tally step.act.sender.tally := by
  obtain ⟨paid, last, heq, hpaid, hfailures, hretries, hlast⟩ := h
  have hevents : events [step] = step.act.events := List.append_nil _
  refine ⟨?_, ?_, ?_, ?_, hdatagrams, hbytes⟩
  · rw [hfailures, hevents, Step.refusals, Log.length_refusals]
  · rw [List.flatMap_singleton, heq, countP_leadsOn hpaid hlast, hretries]
  · rwa [hevents]
  · rwa [hevents]

theorem runEvents_of_run {step : Step} (h : step.command = .run) :
    runEvents [step] = step.act.events := by
  rw [runEvents, List.filter_cons_of_pos (by simpa using h)]
  exact List.append_nil _

theorem runEvents_of_ne {step : Step} (h : step.command ≠ .run) : runEvents [step] = [] := by
  rw [runEvents, List.filter_cons_of_neg (by simpa using h)]
  rfl

section Ending

variable {body ending : List Event} (h : ending = [.closed] ∨ ending = [completeEvent, .closed])

include h

theorem refusals_ending (failures : Nat) (stage : Stage) :
    Log.refusals failures stage (body ++ ending) = Log.refusals failures stage body := by
  rw [Log.refusals_append]
  rcases h with rfl | rfl
  · exact List.append_nil _
  · exact List.append_nil _

theorem heldBackCount_ending : Log.heldBackCount (body ++ ending) = Log.heldBackCount body := by
  rw [Log.heldBackCount_append]
  rcases h with rfl | rfl
  · rfl
  · rfl

theorem lineCount_ending : Log.lineCount (body ++ ending) = Log.lineCount body := by
  rw [Log.lineCount_append]
  rcases h with rfl | rfl
  · rfl
  · rw [show Log.lineCount [completeEvent, .closed] = 0 by decide, Nat.add_zero]

theorem sentCount_ending : Log.sentCount (body ++ ending) = Log.sentCount body := by
  rw [Log.sentCount_append]
  rcases h with rfl | rfl
  · rfl
  · rfl

theorem sentBytes_ending : Log.sentBytes (body ++ ending) = Log.sentBytes body := by
  rw [Log.sentBytes_append]
  rcases h with rfl | rfl
  · exact Int.add_zero _
  · exact Int.add_zero _

end Ending

theorem map_eq_error_iff {α β : Type} {f : α → β} {result : Except SenderError α}
    {error : SenderError} : result.map f = .error error ↔ result = .error error := by
  cases result with
  | error other => simp [Except.map]
  | ok value => simp [Except.map]

/-- A step agrees with the tally, and a run or a send balances. -/
def Recorded (hold : Bool) (limit : Nat) (step : Step) : Prop :=
  Agrees hold limit [step] step.sender.tally step.act.sender.tally ∧
    (step.command = .run ∨ step.command = .send → step.Balances limit)

theorem Runs.recorded {result : Except SenderError Nat}
    (h : Runs hold sender stage log result final) :
    Recorded hold sender.policy.limit
      (performStep sender stage .run log (result.map .sent) final) := by
  obtain ⟨body, loopResult, loopFinal, ending, hsend, rfl, hending, htally, herror⟩ :=
    h.exists_body
  have hbooks := hsend.books.of_tally_eq htally
  rw [← refusals_ending hending] at hbooks
  have hheld : hold = true → final.tally.retries =
      sender.tally.retries + Log.heldBackCount (body ++ ending) := by
    rintro rfl
    rw [heldBackCount_ending hending, htally, hsend.heldBackCount_eq]
  have hlines : final.tally.datagrams =
      sender.tally.datagrams + Log.lineCount (body ++ ending) := by
    rw [lineCount_ending hending, hsend.lineCount_eq, htally, hsend.keeps.datagrams]
  have hdatagrams : final.tally.datagrams =
      sender.tally.datagrams + Log.sentCount (body ++ ending) := by
    rw [sentCount_ending hending, htally, hsend.keeps.datagrams]
  have hbytes : final.tally.bytes = sender.tally.bytes + Log.sentBytes (body ++ ending) := by
    rw [sentBytes_ending hending, htally, hsend.bytes_eq]
  constructor
  · refine hbooks.agrees hheld hlines ?_ ?_
    · rw [runEvents_of_run rfl]
      exact hdatagrams
    · rw [runEvents_of_run rfl]
      exact hbytes
  · intro _
    exact hbooks.balances (exists_congr fun fault => (herror _).trans map_eq_error_iff.symm)

theorem Sends.recorded {result : Except SenderError (Option Int)}
    (h : Sends hold sender.policy.backoff sender.policy.limit sender stage log result final) :
    Recorded hold sender.policy.limit
      (performStep sender stage .send log (result.map .bytes) final) := by
  have hbooks := h.books 0
  rw [Nat.zero_add] at hbooks
  have hheld : hold = true → final.tally.retries =
      sender.tally.retries + Log.heldBackCount log := by
    rintro rfl
    exact h.heldBackCount_eq
  have hlines : final.tally.datagrams = sender.tally.datagrams + Log.lineCount log := by
    rw [Log.lineCount, h.texts_eq, h.keeps.datagrams]
    rfl
  constructor
  · refine hbooks.agrees hheld hlines ?_ ?_
    · rw [runEvents_of_ne (by simp [performStep])]
      exact h.keeps.datagrams
    · rw [runEvents_of_ne (by simp [performStep])]
      exact h.bytes_eq.trans (Int.add_zero _).symm
  · intro _
    exact hbooks.balances (exists_congr fun fault => map_eq_error_iff.symm)

theorem Sleeps.mem_waited {delay : Binary64} {result : Except SenderError Bool}
    (h : Sleeps sender delay stage log result) : ∀ event ∈ log, event = .waited delay := by
  cases h with
  | pending => simp
  | failed => simp
  | waited =>
      unfold waitLog
      split
      · simp
      · simp

/-- A command that neither runs nor sends leaves the tally as it is. -/
theorem recorded_of_idle {command : Command} {answer : Except SenderError Answer}
    (hrun : command ≠ .run) (hsend : command ≠ .send) (htally : final.tally = sender.tally)
    (hlog : ∀ event ∈ log, (∃ seconds, event = .waited seconds) ∨ event = .closed)
    (limit : Nat) :
    Recorded hold limit (performStep sender stage command log answer final) := by
  have hrefused : Log.refusals 0 stage log = [] := by
    rw [← List.length_eq_zero_iff, Log.length_refusals, Log.refusedCount, List.countP_eq_zero]
    intro event hevent
    obtain ⟨seconds, rfl⟩ | rfl := hlog event hevent
    · exact Bool.false_ne_true
    · exact Bool.false_ne_true
  have hheld : Log.heldBackCount log = 0 := by
    rw [Log.heldBackCount, List.countP_eq_zero]
    intro event hevent
    obtain ⟨seconds, rfl⟩ | rfl := hlog event hevent
    · exact Bool.false_ne_true
    · exact Bool.false_ne_true
  have htexts : Log.texts log = [] := by
    rw [Log.texts, List.filterMap_eq_nil_iff]
    intro event hevent
    obtain ⟨seconds, rfl⟩ | rfl := hlog event hevent
    · rfl
    · rfl
  have hbooks : Books limit sender final False False (Log.refusals 0 stage log) := by
    rw [hrefused]
    exact (Books.nil id sender).of_tally_eq htally
  constructor
  · refine hbooks.agrees ?_ ?_ ?_ ?_
    · intro _
      show final.tally.retries = sender.tally.retries + Log.heldBackCount log
      rw [hheld, htally, Nat.add_zero]
    · show final.tally.datagrams = sender.tally.datagrams + Log.lineCount log
      rw [Log.lineCount, htexts, htally]
      rfl
    · rw [runEvents_of_ne hrun]
      exact congrArg Tally.datagrams htally
    · rw [runEvents_of_ne hrun]
      exact (congrArg Tally.bytes htally).trans (Int.add_zero _).symm
  · rintro (h | h)
    · exact absurd h hrun
    · exact absurd h hsend

theorem Performs.recorded {command : Command} {answer : Except SenderError Answer}
    (h : Performs hold sender stage command log answer final) :
    Recorded hold sender.policy.limit
      (performStep sender stage command log answer final) := by
  cases h with
  | run hrun => exact hrun.recorded
  | send hsend => exact hsend.recorded
  | stop =>
      refine recorded_of_idle ?_ ?_ ?_ ?_ _
      · simp
      · simp
      · rfl
      · simp
  | close =>
      refine recorded_of_idle ?_ ?_ ?_ ?_ _
      · simp
      · simp
      · rfl
      · simp
  | sleep hsleep =>
      refine recorded_of_idle ?_ ?_ ?_ ?_ _
      · simp
      · simp
      · rfl
      · intro event hevent
        exact .inl ⟨_, hsleep.mem_waited event hevent⟩

/-- Every step of a history is recorded. -/
theorem recorded_of_mem_steps {commands : List Command} {step : Step}
    (h : step ∈ steps hold commands sender stage) :
    Recorded hold sender.policy.limit step := by
  induction commands generalizing sender stage with
  | nil => cases h
  | cons command commands ih =>
      obtain ⟨log, answer, final, hperform⟩ := exists_performs hold sender stage command
      rw [steps_cons hperform] at h
      rcases List.mem_cons.mp h with rfl | hmem
      · exact hperform.recorded
      · have hrecorded := ih hmem
        rwa [hperform.keeps_settings.2] at hrecorded

/-- The tally of any sender grows by what its history records. -/
theorem agrees_reached (hold : Bool) (commands : List Command) (sender : Sender) (stage : Stage) :
    Agrees hold sender.policy.limit (steps hold commands sender stage) sender.tally
      (reached hold commands sender stage).1.tally := by
  induction commands generalizing sender stage with
  | nil => exact .nil _ _ _
  | cons command commands ih =>
      obtain ⟨log, answer, final, hperform⟩ := exists_performs hold sender stage command
      have hrest := ih final (stageAfter stage command log)
      rw [hperform.keeps_settings.2] at hrest
      rw [steps_cons hperform, reached_cons hperform]
      exact hperform.recorded.1.append hrest

/-- The counters of a sender agree with what was done. After any commands the failures are the
datagrams that were refused, the retries are the pauses that were begun before one, and the
datagrams are the lines written, that of a complete run left out, and those that went out in runs,
with as many bytes as the network reported. Every run and every send among the commands raises the
failures as much as the retries, or by one more, which is for a datagram that was refused for good
or for a retry that was given up. -/
theorem tally_agrees (hold : Bool) (config : Config) (policy : RetryPolicy)
    (destination : Endpoint) (opening : Stage) (commands : List Command) :
    Agrees hold policy.limit (steps hold commands { config, policy, destination } opening) {}
        (reached hold commands { config, policy, destination } opening).1.tally ∧
      ∀ step ∈ steps hold commands { config, policy, destination } opening,
        step.command = .run ∨ step.command = .send → step.Balances policy.limit := by
  refine ⟨agrees_reached hold commands { config, policy, destination } opening, ?_⟩
  intro step hstep
  exact (recorded_of_mem_steps hstep).2

end Sender

end Heartbeat
