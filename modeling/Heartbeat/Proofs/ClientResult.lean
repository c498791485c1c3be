import Heartbeat.Client.Command
import Heartbeat.Proofs.FirstRun

/-!
# The result of the sending command

A command line that returns has one of three exit codes, and the arguments, the set-up and the run
decide which (`rehearse_exit`). It is 0 exactly when all datagrams went out, and the exit code of an
interrupted run exactly when a stop request came before that and the attempts for a datagram were
not used up; otherwise there is one message that says what went wrong. The two outputs are in each
case those lines of the run that belong to it, and nothing else.

The events of a report are those that concern the network. Nothing that is counted in a log depends
on the others (`Log.sentCount_outward` and its companions).
-/

namespace Heartbeat

namespace Log

variable (log : List Event)

theorem sentCount_outward : sentCount (log.filter Event.isOutward) = sentCount log := by
  rw [sentCount, List.countP_filter]
  congr 1
  funext event
  cases event <;> rfl

theorem attemptCount_outward : attemptCount (log.filter Event.isOutward) = attemptCount log := by
  rw [attemptCount, List.countP_filter]
  congr 1
  funext event
  cases event <;> rfl

theorem failuresInARow_outward :
    failuresInARow (log.filter Event.isOutward) = failuresInARow log := by
  rw [failuresInARow, failuresInARow, List.foldl_filter]
  congr 1
  funext failures event
  cases event <;> rfl

theorem stopsWithin_outward (script : Script) :
    script.stopsWithin (log.filter Event.isOutward) = script.stopsWithin log := by
  induction log generalizing script with
  | nil => rfl
  | cons event log ih =>
      rw [List.filter_cons, Script.stopsWithin]
      cases event with
      | printed | complained =>
          rw [if_neg (by simp [Event.isOutward]), ih]
          rfl
      | _ =>
          rw [if_pos (by rfl), Script.stopsWithin, ih]

/-- What reaches the standard output is the texts written to it. -/
theorem join_output : String.join (log.map Event.output) = String.join (texts log) := by
  induction log with
  | nil => rfl
  | cons event log ih =>
      rw [List.map_cons, String.join_cons, ih]
      cases event with
      | printed text => exact String.join_cons.symm
      | _ => exact String.empty_append

theorem join_errorOutput (h : ∀ event ∈ log, event.errorOutput = "") :
    String.join (log.map Event.errorOutput) = "" := by
  induction log with
  | nil => rfl
  | cons event log ih =>
      rw [List.map_cons, String.join_cons, h event List.mem_cons_self,
        ih fun event hevent => h event (List.mem_cons_of_mem _ hevent), String.empty_append]

end Log

namespace Client

/-! ## What the command does -/

/-- How an argument error is reported. -/
def argumentEvent (error : ArgumentError) : Event :=
  match error with
  | .unknownToken _ => .printed (error.message ++ "\n")
  | .missing => .complained (error.message ++ "\n")
  | _ => .complained ("udp_client: " ++ error.message ++ "\n")

/-- How an error of the sender ends the command, and what is written then. -/
def verdictOnError (error : SenderError) : Ending SenderError × List Event :=
  if error.isReported then (.exit exitFailure, [.complained (error.message ++ "\n")])
  else (.escape error, [])

/-- How a run ends the command, and what is written then. -/
def verdict (final : Sender) : Except SenderError Nat → Ending SenderError × List Event
  | .error error => verdictOnError error
  | .ok sent =>
    if final.interrupted then
      (.exit exitInterrupted, [.complained ("interrupted after " ++ toString sent ++ " packets\n")])
    else (.exit exitOk, [])

theorem reportArguments_apply (hold : Bool) (error : ArgumentError) (stage : Stage) :
    reportArguments (rehearsal hold) error stage = ((), stage.next (argumentEvent error)) := by
  cases error with
  | unknownToken => exact print_apply hold stage _
  | _ => exact complain_apply hold stage _

theorem reportSender_apply (hold : Bool) (error : SenderError) (stage : Stage) :
    reportSender (rehearsal hold) error stage =
      ((verdictOnError error).1, stage.after (verdictOnError error).2) := by
  rw [reportSender, verdictOnError]
  split
  · rw [bind_apply, complain_apply]
    rfl
  · rfl

variable {arguments : List String} {script : Script}

theorem rehearse_of_argumentError {error : ArgumentError} (h : parse arguments = .error error) :
    rehearse arguments script = .ofEvents (.exit exitFailure) [argumentEvent error] := by
  have hrun : run (rehearsal false) arguments { script } =
      (.exit exitFailure, ({ script } : Stage).next (argumentEvent error)) := by
    rw [run, h]
    simp only []
    rw [bind_apply, reportArguments_apply]
    rfl
  rw [rehearse, hrun]
  rfl

/-- The line shown before a run, as it is written. -/
def summaryEvent (config : Config) : Event := .printed (config.summary ++ "\n")

theorem rehearse_of_create_error {config : Config} {error : SenderError} {log : List Event}
    (hparse : parse arguments = .ok config)
    (hcreate : Sender.create (rehearsal false) config (Sender.defaultPolicy config) false
      (({ script } : Stage).next (summaryEvent config)) =
        (.error error, (({ script } : Stage).next (summaryEvent config)).after log)) :
    rehearse arguments script = .ofEvents (verdictOnError error).1
      (summaryEvent config :: (log ++ (verdictOnError error).2)) := by
  have hrun : run (rehearsal false) arguments { script } = ((verdictOnError error).1,
      ({ script } : Stage).after (summaryEvent config :: (log ++ (verdictOnError error).2))) := by
    rw [summaryEvent] at hcreate
    rw [run, hparse]
    simp only []
    rw [bind_apply, print_apply, bind_apply]
    simp only [hcreate]
    rw [reportSender_apply, ← Stage.after_append]
    rfl
  rw [rehearse, hrun]
  simp only [Stage.toList_events_after, List.nil_append]

/-- The stage on which the run of the command begins. -/
def runStage (config : Config) (script : Script) : Stage :=
  ({ script } : Stage).after [summaryEvent config, .opened]

/-- All that the command does when it runs a sender. -/
def runEvents (config : Config) (log tail : List Event) : List Event :=
  summaryEvent config :: .opened :: (log ++ tail)

theorem after_runStage (config : Config) (script : Script) (log tail : List Event) :
    ((runStage config script).after log).after tail =
      ({ script } : Stage).after (runEvents config log tail) := by
  rw [runStage, ← Stage.after_append, ← Stage.after_append]
  rfl

theorem rehearse_of_runs {config : Config} {destination : Endpoint} {log : List Event}
    {result : Except SenderError Nat} {final : Sender}
    (hparse : parse arguments = .ok config)
    (hready : Sender.Ready false config script destination)
    (hrun : Sender.Runs false { config, policy := Sender.defaultPolicy config, destination }
      (runStage config script) log result final) :
    rehearse arguments script =
      .ofEvents (verdict final result).1 (runEvents config log (verdict final result).2) := by
  have hrun : run (rehearsal false) arguments { script } = ((verdict final result).1,
      ({ script } : Stage).after (runEvents config log (verdict final result).2)) := by
    have hcreate : Sender.create (rehearsal false) config (Sender.defaultPolicy config) false
        (({ script } : Stage).next (summaryEvent config)) =
          (.ok { config, policy := Sender.defaultPolicy config, destination },
            runStage config script) := by
      have hsocket : Sender.socketFault? false
          (({ script } : Stage).next (summaryEvent config)).script = none := hready.socket
      have hwakePair : (({ script } : Stage).next (summaryEvent config)).script.wakePairFault =
          none := hready.wakePair
      rw [Sender.create_apply, hready.resolved]
      simp only [hsocket, hwakePair]
      rfl
    rw [summaryEvent] at hcreate
    rw [run, hparse]
    simp only []
    rw [bind_apply, print_apply, bind_apply]
    simp only [hcreate]
    rw [bind_apply, hrun.eq]
    rw [← after_runStage]
    cases result with
    | error error =>
        simp only []
        rw [reportSender_apply]
        rfl
    | ok sent =>
        simp only [verdict]
        split
        · rw [bind_apply, complain_apply]
          rfl
        · rfl
  rw [rehearse, hrun]
  simp only [Stage.toList_events_after, List.nil_append]

/-! ## What a report tells -/

/-- The arguments are valid, and a sender can be set up for them. -/
def Starts (arguments : List String) (script : Script) (config : Config) : Prop :=
  parse arguments = .ok config ∧ ∃ destination, Sender.Ready false config script destination

/-- The sender could be set up, and all its datagrams went out. -/
def SendsAll (arguments : List String) (script : Script) (report : Report SenderError) : Prop :=
  ∃ config, Starts arguments script config ∧ Log.sentCount report.events = config.count

/-- The sender could be set up, and before all its datagrams had gone out a stop request came.
The attempts for a datagram were not used up. -/
def StopsEarly (arguments : List String) (script : Script) (report : Report SenderError) : Prop :=
  ∃ config, Starts arguments script config ∧ Log.sentCount report.events < config.count ∧
    script.stopsWithin report.events = true ∧
    Log.failuresInARow report.events ≤ config.retries

/-- What is shown up to a number of datagrams. -/
def shown (config : Config) (sent : Nat) : String :=
  config.summary ++ "\n" ++
    String.join ((List.range sent).map (Sender.progressText config.count))

/-- An argument error is shown alone, and only on the output that it belongs to. -/
def ReportsArgument (error : ArgumentError) (report : Report SenderError) : Prop :=
  report.events = [] ∧
    match error with
    | .unknownToken _ => report.output = error.message ++ "\n" ∧ report.errorOutput = ""
    | .missing => report.output = "" ∧ report.errorOutput = usage ++ "\n"
    | _ => report.output = "" ∧ report.errorOutput = "udp_client: " ++ error.message ++ "\n"

/-- What leads to each error of the sender. -/
def LeadsTo (config : Config) (script : Script) (events : List Event) : SenderError → Prop
  | .unresolved => Endpoint.resolve? config.server config.port = none ∧ events = []
  | .noSocket fault =>
    (Endpoint.resolve? config.server config.port).isSome ∧ script.socketFault = some fault ∧
      events = []
  | .notSent fault =>
    (∃ destination, Sender.Ready false config script destination) ∧
      Log.sentCount events < config.count ∧ Log.failuresInARow events = config.retries + 1 ∧
      script.deliveryAt (Log.attemptCount events - 1) = .refused fault
  | _ => False

/-- Something went wrong, and the report says what, in one message. -/
def Diagnoses (arguments : List String) (script : Script) (report : Report SenderError) : Prop :=
  match parse arguments with
  | .error error => ReportsArgument error report
  | .ok config =>
    ∃ error, LeadsTo config script report.events error ∧
      report.output = shown config (Log.sentCount report.events) ∧
      report.errorOutput = error.message ++ "\n"

theorem Starts.config_eq {config other : Config} (h : Starts arguments script config)
    (h' : Starts arguments script other) : other = config :=
  Except.ok.inj (h'.1.symm.trans h.1)

theorem StopsEarly.not_sendsAll {report : Report SenderError}
    (h : StopsEarly arguments script report) : ¬ SendsAll arguments script report := by
  rintro ⟨config, hstarts, hall⟩
  obtain ⟨other, hother, hfew, -, -⟩ := h
  obtain rfl := hstarts.config_eq hother
  omega

theorem Diagnoses.not_sendsAll_not_stopsEarly {report : Report SenderError}
    (h : Diagnoses arguments script report) :
    ¬ SendsAll arguments script report ∧ ¬ StopsEarly arguments script report := by
  -- where the sender could be set up, a datagram has used up its attempts
  have hrefused : ∀ config, Starts arguments script config →
      Log.sentCount report.events < config.count ∧
        Log.failuresInARow report.events = config.retries + 1 := by
    rintro config ⟨hparse, destination, hready⟩
    rw [Diagnoses, hparse] at h
    obtain ⟨error, hleads, -, -⟩ := h
    cases error with
    | unresolved =>
        rw [LeadsTo, hready.resolved] at hleads
        cases hleads.1
    | noSocket fault =>
        have hsocket : script.socketFault = none := hready.socket
        rw [LeadsTo, hsocket] at hleads
        cases hleads.2.1
    | notSent fault => exact ⟨hleads.2.1, hleads.2.2.1⟩
    | noWakePair => exact absurd hleads id
    | waitTooLong => exact absurd hleads id
    | closed => exact absurd hleads id
  constructor
  · rintro ⟨config, hstarts, hall⟩
    have hfew := (hrefused config hstarts).1
    omega
  · rintro ⟨config, hstarts, -, -, hfailures⟩
    have hused := (hrefused config hstarts).2
    omega

/-! ## The report of a run -/

section Run

variable {config : Config} {destination : Endpoint} {log tail : List Event}
  {result : Except SenderError Nat} {final : Sender}

/-- What is written once the run is over is at most one message. -/
def IsMessage (tail : List Event) : Prop := tail = [] ∨ ∃ text, tail = [.complained text]

theorem isMessage_verdict (final : Sender) (result : Except SenderError Nat) :
    IsMessage (verdict final result).2 := by
  cases result with
  | error error =>
      rw [verdict, verdictOnError]
      split
      · exact .inr ⟨_, rfl⟩
      · exact .inl rfl
  | ok sent =>
      rw [verdict]
      split
      · exact .inr ⟨_, rfl⟩
      · exact .inl rfl

theorem outward_runEvents (h : IsMessage tail) :
    (runEvents config log tail).filter Event.isOutward =
      .opened :: log.filter Event.isOutward := by
  show .opened :: (log ++ tail).filter Event.isOutward = _
  rw [List.filter_append]
  rcases h with rfl | ⟨text, rfl⟩
  · rw [List.filter_nil, List.append_nil]
  · show _ :: (_ ++ []) = _
    rw [List.append_nil]

theorem output_after_summary (config : Config) (log : List Event) (h : IsMessage tail) :
    String.join ((summaryEvent config :: (log ++ tail)).map Event.output) =
      config.summary ++ "\n" ++ String.join (Log.texts log) := by
  have htexts : Log.texts (summaryEvent config :: (log ++ tail)) =
      (config.summary ++ "\n") :: Log.texts log := by
    show _ :: Log.texts (log ++ tail) = _
    rw [Log.texts_append]
    rcases h with rfl | ⟨text, rfl⟩
    · rw [show Log.texts [] = [] from rfl, List.append_nil]
    · rw [show Log.texts [.complained text] = [] from rfl, List.append_nil]
  rw [Log.join_output, htexts, String.join_cons]

theorem errorOutput_after_summary (config : Config) (tail : List Event)
    (h : ∀ event ∈ log, event.errorOutput = "") :
    String.join ((summaryEvent config :: (log ++ tail)).map Event.errorOutput) =
      String.join (tail.map Event.errorOutput) := by
  have hlog : ∀ event ∈ summaryEvent config :: log, event.errorOutput = "" := by
    intro event hevent
    rcases List.mem_cons.mp hevent with rfl | hmem
    · rfl
    · exact h event hmem
  show String.join ((summaryEvent config :: log ++ tail).map Event.errorOutput) = _
  rw [List.map_append, String.join_append, Log.join_errorOutput _ hlog, String.empty_append]

theorem errorOutput_opened (h : ∀ event ∈ log, event.errorOutput = "") :
    ∀ event ∈ .opened :: log, event.errorOutput = "" := by
  intro event hevent
  rcases List.mem_cons.mp hevent with rfl | hmem
  · rfl
  · exact h event hmem

/-- The report of a run, by its log and its result. -/
structure ReportsRun (config : Config) (script : Script) (log : List Event)
    (result : Except SenderError Nat) (final : Sender) (report : Report SenderError) : Prop where
  ending : report.ending = (verdict final result).1
  output : report.output = config.summary ++ "\n" ++ String.join (Log.texts log)
  errorOutput : report.errorOutput =
    String.join ((verdict final result).2.map Event.errorOutput)
  sentCount : Log.sentCount report.events = Log.sentCount log
  attemptCount : Log.attemptCount report.events = Log.attemptCount log
  failures : Log.failuresInARow report.events = Log.failuresInARow log
  stopsWithin : script.stopsWithin report.events = script.stopsWithin log

theorem rehearse_reportsRun (hparse : parse arguments = .ok config)
    (hready : Sender.Ready false config script destination)
    (hrun : Sender.Runs false { config, policy := Sender.defaultPolicy config, destination }
      (runStage config script) log result final) :
    ReportsRun config script log result final (rehearse arguments script) := by
  have hmessage := isMessage_verdict final result
  rw [rehearse_of_runs hparse hready hrun]
  have houtward : (runEvents config log (verdict final result).2).filter Event.isOutward =
      .opened :: log.filter Event.isOutward := outward_runEvents hmessage
  have herrors := errorOutput_after_summary config (verdict final result).2
    (errorOutput_opened hrun.errorOutput)
  exact {
    ending := rfl
    output := output_after_summary config (.opened :: log) hmessage
    errorOutput := herrors
    sentCount := (congrArg Log.sentCount houtward).trans (Log.sentCount_outward log)
    attemptCount := (congrArg Log.attemptCount houtward).trans (Log.attemptCount_outward log)
    failures := (congrArg Log.failuresInARow houtward).trans (Log.failuresInARow_outward log)
    stopsWithin :=
      (congrArg script.stopsWithin houtward).trans (Log.stopsWithin_outward log script) }

end Run

/-! ## The three ways to return -/

/-- The command has sent everything and says so. -/
def Completes (arguments : List String) (script : Script) (report : Report SenderError) : Prop :=
  SendsAll arguments script report ∧ ∃ config, parse arguments = .ok config ∧
    report.output = shown config config.count ++ Sender.completeText ∧ report.errorOutput = ""

/-- The command was stopped and says after how many datagrams. -/
def BreaksOff (arguments : List String) (script : Script) (report : Report SenderError) : Prop :=
  StopsEarly arguments script report ∧ ∃ config, parse arguments = .ok config ∧
    report.output = shown config (Log.sentCount report.events) ∧
    report.errorOutput =
      "interrupted after " ++ toString (Log.sentCount report.events) ++ " packets\n"

theorem diagnoses_of_argumentError {error : ArgumentError} (h : parse arguments = .error error) :
    Diagnoses arguments script (rehearse arguments script) := by
  rw [Diagnoses, h, rehearse_of_argumentError h]
  cases error with
  | unknownToken token => exact ⟨rfl, String.join_cons.trans String.append_empty, rfl⟩
  | missing => exact ⟨rfl, rfl, String.join_cons.trans String.append_empty⟩
  | _ => exact ⟨rfl, rfl, String.join_cons.trans String.append_empty⟩

/-- An error before the run is one of the set-up, and nothing has happened. -/
theorem diagnoses_of_create_error {config : Config} {error : SenderError}
    (hparse : parse arguments = .ok config)
    (hcreate : Sender.create (rehearsal false) config (Sender.defaultPolicy config) false
      (({ script } : Stage).next (summaryEvent config)) =
        (.error error, ({ script } : Stage).next (summaryEvent config)))
    (hreported : error.isReported = true) (hleads : LeadsTo config script [] error) :
    (rehearse arguments script).ending = .exit exitFailure ∧
      Diagnoses arguments script (rehearse arguments script) := by
  have hverdict : verdictOnError error =
      (.exit exitFailure, [.complained (error.message ++ "\n")]) := by
    rw [verdictOnError, if_pos hreported]
  have hreport : rehearse arguments script = .ofEvents (.exit exitFailure)
      [summaryEvent config, .complained (error.message ++ "\n")] := by
    rw [@rehearse_of_create_error arguments script config error [] hparse hcreate, hverdict]
    rfl
  rw [Diagnoses, hparse, hreport]
  refine ⟨rfl, error, hleads, ?_, ?_⟩
  · show String.join [config.summary ++ "\n", ""] = _ ++ String.join []
    rw [String.join_cons, String.join_cons, String.empty_append]
  · show String.join ["", error.message ++ "\n"] = _
    rw [String.join_cons, String.join_cons, String.join_nil, String.empty_append,
      String.append_empty]

section Return

variable {config : Config} {destination : Endpoint} {log : List Event}
  {result : Except SenderError Nat} {final : Sender} {code limit : Nat}

theorem eq_ok_of_answer {sent : Nat}
    (h : (Sender.runAct (runStage config script) log result final).answer = .ok (.sent sent)) :
    result = .ok sent := by
  cases result with
  | error error => cases h
  | ok other => cases h; rfl

theorem eq_error_of_answer {error : SenderError}
    (h : (Sender.runAct (runStage config script) log result final).answer = .error error) :
    result = .error error := by
  cases result with
  | error other => cases h; rfl
  | ok sent => cases h

theorem ReportsRun.completes
    (h : ReportsRun config script log result final (rehearse arguments script))
    (hstarts : Starts arguments script config)
    (hends : (Sender.runAct (runStage config script) log result final).EndsBy config.count limit
      script .complete) :
    (rehearse arguments script).ending = .exit exitOk ∧
      Completes arguments script (rehearse arguments script) := by
  obtain ⟨hanswer, hsent, htexts, -, hinterrupted⟩ := hends
  obtain rfl := eq_ok_of_answer hanswer
  have hverdict : verdict final (.ok config.count) = (.exit exitOk, []) := by
    rw [verdict, if_neg]
    intro hmarked
    rw [show final.interrupted = false from hinterrupted] at hmarked
    cases hmarked
  refine ⟨h.ending.trans (congrArg Prod.fst hverdict),
    ⟨config, hstarts, h.sentCount.trans hsent⟩, config, hstarts.1, ?_, ?_⟩
  · rw [h.output, show Log.texts log = _ from htexts, String.join_append, shown,
      String.append_assoc, String.join_cons, String.join_nil, String.append_empty]
    rw [String.append_assoc, String.append_assoc]
  · rw [h.errorOutput, hverdict]
    rfl

theorem ReportsRun.breaksOff
    (h : ReportsRun config script log result final (rehearse arguments script))
    (hstarts : Starts arguments script config)
    (hrun : Sender.Runs false { config, policy := Sender.defaultPolicy config, destination }
      (runStage config script) log result final)
    (hends : (Sender.runAct (runStage config script) log result final).EndsBy config.count limit
      script .cutShort) :
    (rehearse arguments script).ending = .exit exitInterrupted ∧
      BreaksOff arguments script (rehearse arguments script) := by
  obtain ⟨sent, hfew, hanswer, hsent, hstop, htexts, -, hinterrupted⟩ := hends
  obtain rfl := eq_ok_of_answer hanswer
  have hverdict : verdict final (.ok sent) = (.exit exitInterrupted,
      [.complained ("interrupted after " ++ toString sent ++ " packets\n")]) := by
    rw [verdict, if_pos (show final.interrupted = true from hinterrupted)]
  have hcount : Log.sentCount (rehearse arguments script).events = sent :=
    h.sentCount.trans hsent
  refine ⟨h.ending.trans (congrArg Prod.fst hverdict),
    ⟨config, hstarts, hcount ▸ hfew, ?_, ?_⟩, config, hstarts.1, ?_, ?_⟩
  · rw [h.stopsWithin]
    exact (Stage.stopRequested_after _ _).symm.trans hstop
  · rw [h.failures]
    exact hrun.failures_le (by simp)
  · rw [hcount, h.output, show Log.texts log = _ from htexts, shown]
  · rw [hcount, h.errorOutput, hverdict]
    exact String.join_cons.trans String.append_empty

theorem ReportsRun.diagnoses
    (h : ReportsRun config script log result final (rehearse arguments script))
    (hparse : parse arguments = .ok config)
    (hready : Sender.Ready false config script destination)
    (hrun : Sender.Runs false { config, policy := Sender.defaultPolicy config, destination }
      (runStage config script) log result final)
    (hends : (Sender.runAct (runStage config script) log result final).EndsBy config.count
      config.retries script .failed)
    (hexit : (rehearse arguments script).ending = .exit code) :
    (rehearse arguments script).ending = .exit exitFailure ∧
      Diagnoses arguments script (rehearse arguments script) := by
  obtain ⟨error, sent, hle, hanswer, hsent, htexts, -, -, hnotSent⟩ := hends
  obtain rfl := eq_error_of_answer hanswer
  have hcount : Log.sentCount (rehearse arguments script).events = sent :=
    h.sentCount.trans hsent
  rcases hrun.error_cases with ⟨fault, rfl⟩ | hescapes
  · have hverdict : verdict final (.error (.notSent fault)) = (.exit exitFailure,
        [.complained ((SenderError.notSent fault).message ++ "\n")]) := rfl
    obtain ⟨hfew, hfailures, hdelivery⟩ := hnotSent fault rfl
    refine ⟨h.ending.trans (congrArg Prod.fst hverdict), ?_⟩
    rw [Diagnoses, hparse]
    refine ⟨.notSent fault, ⟨⟨destination, hready⟩, hcount ▸ hfew, ?_, ?_⟩, ?_, ?_⟩
    · exact h.failures.trans hfailures
    · rw [h.attemptCount]
      exact hdelivery
    · rw [hcount, h.output, show Log.texts log = _ from htexts, shown]
    · rw [h.errorOutput, hverdict]
      exact String.join_cons.trans String.append_empty
  · -- an error that is not reported does not let the command return
    have hending := h.ending
    rw [hexit, verdict, verdictOnError, if_neg (by simp [hescapes])] at hending
    cases hending

end Return

theorem code_eq {code other : Nat} (hexit : (rehearse arguments script).ending = .exit code)
    (hother : (rehearse arguments script).ending = .exit other) : code = other := by
  rw [hexit] at hother
  cases hother
  rfl

/-- Once the sender is set up, the way in which its run ends decides. -/
theorem rehearse_cases_of_ready {config : Config} {destination : Endpoint} {code : Nat}
    (hparse : parse arguments = .ok config)
    (hready : Sender.Ready false config script destination)
    (hexit : (rehearse arguments script).ending = .exit code) :
    code = exitOk ∧ Completes arguments script (rehearse arguments script) ∨
      code = exitInterrupted ∧ BreaksOff arguments script (rehearse arguments script) ∨
      code = exitFailure ∧ Diagnoses arguments script (rehearse arguments script) := by
  have hstarts : Starts arguments script config := ⟨hparse, destination, hready⟩
  obtain ⟨log, result, final, hrun⟩ := Sender.exists_runs false
    { config, policy := Sender.defaultPolicy config, destination } (runStage config script)
  have hreport := rehearse_reportsRun hparse hready hrun
  obtain ⟨ending, hends⟩ := hrun.exists_endsBy rfl rfl
  cases ending with
  | complete =>
      obtain ⟨hending, hcompletes⟩ := hreport.completes hstarts hends
      exact .inl ⟨code_eq hexit hending, hcompletes⟩
  | cutShort =>
      obtain ⟨hending, hbreaks⟩ := hreport.breaksOff hstarts hrun hends
      exact .inr (.inl ⟨code_eq hexit hending, hbreaks⟩)
  | failed =>
      obtain ⟨hending, hdiagnoses⟩ := hreport.diagnoses hparse hready hrun hends hexit
      exact .inr (.inr ⟨code_eq hexit hending, hdiagnoses⟩)

theorem rehearse_cases {code : Nat} (hexit : (rehearse arguments script).ending = .exit code) :
    code = exitOk ∧ Completes arguments script (rehearse arguments script) ∨
      code = exitInterrupted ∧ BreaksOff arguments script (rehearse arguments script) ∨
      code = exitFailure ∧ Diagnoses arguments script (rehearse arguments script) := by
  cases hparse : parse arguments with
  | error error =>
      refine .inr (.inr ⟨code_eq hexit ?_, diagnoses_of_argumentError hparse⟩)
      rw [rehearse_of_argumentError hparse]
      rfl
  | ok config =>
      have hcreate := Sender.create_apply false false config (Sender.defaultPolicy config)
        (({ script } : Stage).next (summaryEvent config))
      cases hresolve : Endpoint.resolve? config.server config.port with
      | none =>
          rw [hresolve] at hcreate
          obtain ⟨hending, hdiagnoses⟩ :=
            diagnoses_of_create_error hparse hcreate rfl ⟨hresolve, rfl⟩
          exact .inr (.inr ⟨code_eq hexit hending, hdiagnoses⟩)
      | some destination =>
          rw [hresolve] at hcreate
          cases hsocket : script.socketFault with
          | some fault =>
              have hfault : Sender.socketFault? false
                  (({ script } : Stage).next (summaryEvent config)).script = some fault := hsocket
              simp only [hfault] at hcreate
              obtain ⟨hending, hdiagnoses⟩ := diagnoses_of_create_error hparse hcreate rfl
                ⟨Option.isSome_of_eq_some hresolve, hsocket, rfl⟩
              exact .inr (.inr ⟨code_eq hexit hending, hdiagnoses⟩)
          | none =>
              have hfault : Sender.socketFault? false
                  (({ script } : Stage).next (summaryEvent config)).script = none := hsocket
              cases hwakePair : script.wakePairFault with
              | some fault =>
                  -- the fault of the wake pair escapes
                  have hfault' : (({ script } : Stage).next
                      (summaryEvent config)).script.wakePairFault = some fault := hwakePair
                  simp only [hfault, hfault'] at hcreate
                  rw [rehearse_of_create_error hparse hcreate] at hexit
                  cases hexit
              | none => exact rehearse_cases_of_ready hparse ⟨hresolve, hsocket, hwakePair⟩ hexit

/-- How the sending command returns. It returns 0 exactly when it has sent everything, and the exit
code of an interrupted run exactly when it was stopped early; in both cases the outputs are those
of the run. Every other time it returns the exit code of a failure, and one message says why. -/
theorem rehearse_exit {code : Nat} (hexit : (rehearse arguments script).ending = .exit code) :
    (code = exitOk ↔ SendsAll arguments script (rehearse arguments script)) ∧
      (code = exitInterrupted ↔ StopsEarly arguments script (rehearse arguments script)) ∧
      (code = exitOk → Completes arguments script (rehearse arguments script)) ∧
      (code = exitInterrupted → BreaksOff arguments script (rehearse arguments script)) ∧
      (code ≠ exitOk → code ≠ exitInterrupted →
        code = exitFailure ∧ Diagnoses arguments script (rehearse arguments script)) := by
  rcases rehearse_cases hexit with
    ⟨rfl, hcompletes⟩ | ⟨rfl, hbreaks⟩ | ⟨rfl, hdiagnoses⟩
  · have hstops : ¬ StopsEarly arguments script (rehearse arguments script) :=
      fun hstops => hstops.not_sendsAll hcompletes.1
    exact ⟨iff_of_true rfl hcompletes.1, iff_of_false (by decide) hstops, fun _ => hcompletes,
      fun heq => absurd heq (by decide), fun hne => absurd rfl hne⟩
  · have hsends := hbreaks.1.not_sendsAll
    exact ⟨iff_of_false (by decide) hsends, iff_of_true rfl hbreaks.1,
      fun heq => absurd heq (by decide), fun _ => hbreaks, fun _ hne => absurd rfl hne⟩
  · obtain ⟨hsends, hstops⟩ := hdiagnoses.not_sendsAll_not_stopsEarly
    exact ⟨iff_of_false (by decide) hsends, iff_of_false (by decide) hstops,
      fun heq => absurd heq (by decide), fun heq => absurd heq (by decide),
      fun _ _ => ⟨rfl, hdiagnoses⟩⟩

/-- A stop request during the first of two datagrams. -/
theorem rehearse_exit_of_stop :
    (rehearse ["-c", "2"] { sends := [⟨.whole, 1⟩] }).ending = .exit exitInterrupted ∧
      (exitInterrupted = exitOk ↔ SendsAll ["-c", "2"] { sends := [⟨.whole, 1⟩] }
        (rehearse ["-c", "2"] { sends := [⟨.whole, 1⟩] })) ∧
      (exitInterrupted = exitInterrupted ↔ StopsEarly ["-c", "2"] { sends := [⟨.whole, 1⟩] }
        (rehearse ["-c", "2"] { sends := [⟨.whole, 1⟩] })) ∧
      (exitInterrupted = exitOk → Completes ["-c", "2"] { sends := [⟨.whole, 1⟩] }
        (rehearse ["-c", "2"] { sends := [⟨.whole, 1⟩] })) ∧
      (exitInterrupted = exitInterrupted → BreaksOff ["-c", "2"] { sends := [⟨.whole, 1⟩] }
        (rehearse ["-c", "2"] { sends := [⟨.whole, 1⟩] })) ∧
      (exitInterrupted ≠ exitOk → exitInterrupted ≠ exitInterrupted →
        exitInterrupted = exitFailure ∧ Diagnoses ["-c", "2"] { sends := [⟨.whole, 1⟩] }
          (rehearse ["-c", "2"] { sends := [⟨.whole, 1⟩] })) := by
  have hexit : (rehearse ["-c", "2"] { sends := [⟨.whole, 1⟩] }).ending =
      .exit exitInterrupted := by decide +kernel
  exact ⟨hexit, rehearse_exit hexit⟩

end Client

end Heartbeat
