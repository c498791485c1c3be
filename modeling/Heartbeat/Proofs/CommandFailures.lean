import Heartbeat.Proofs.ClientResult
import Heartbeat.Proofs.LongPauses

/-!
# What goes wrong in the sending command

A command line can meet a failure in its arguments, while its sender is set up, and during the run.
Each decides how the command ends (`rehearse_of_failure`). Most are reported in one message with the
exit code of a failure. Two are not: the fault of a wake pair that cannot be created, and the error
of a pause that is too long escape the command.
-/

namespace Heartbeat

namespace Client

/-- What can go wrong with a command line. -/
inductive Failure where
  | argument (error : ArgumentError)
  | sender (error : SenderError)

/-- What it means for a command line with these events to meet a failure. -/
def Meets (arguments : List String) (script : Script) (events : List Event) : Failure → Prop
  | .argument error => parse arguments = .error error
  | .sender error => ∃ config, parse arguments = .ok config ∧
    match error with
    | .noWakePair fault =>
      (Endpoint.resolve? config.server config.port).isSome ∧ script.socketFault = none ∧
        script.wakePairFault = some fault
    | .waitTooLong =>
      (∃ destination, Sender.Ready false config script destination) ∧
        script.stopsWithin events = false ∧
        ∃ due, Sender.pauseDue? config (Sender.defaultPolicy config) events = some due ∧
          script.IsTooLong due
    | error => LeadsTo config script events error

/-- How a failure ends the command. One that is reported is turned into a message and the exit code
of a failure; any other escapes, and there is no message. -/
def Failure.Ends (arguments : List String) (report : Report SenderError) : Failure → Prop
  | .argument error => report.ending = .exit exitFailure ∧ ReportsArgument error report
  | .sender error => ∃ config, parse arguments = .ok config ∧
    report.output = shown config (Log.sentCount report.events) ∧
      if error.isReported then
        report.ending = .exit exitFailure ∧ report.errorOutput = error.message ++ "\n"
      else report.ending = .escape error ∧ report.errorOutput = ""

variable {arguments : List String} {script : Script} {config : Config} {destination : Endpoint}
  {error : SenderError}

theorem Failure.Ends.escape_cases {report : Report SenderError} {error other : SenderError}
    (h : (Failure.sender error).Ends arguments report) (hescape : report.ending = .escape other) :
    other = error ∧ error.isReported = false := by
  obtain ⟨config, -, -, hends⟩ := h
  split at hends
  · cases hescape.symm.trans hends.1
  · next hreported =>
      cases hescape.symm.trans hends.1
      exact ⟨rfl, by simpa using hreported⟩

/-- What is written at the end of a command that fails. -/
theorem verdictOnError_cases (error : SenderError) :
    error.isReported = true ∧ verdictOnError error =
        (.exit exitFailure, [.complained (error.message ++ "\n")]) ∨
      error.isReported = false ∧ verdictOnError error = (.escape error, []) := by
  rw [verdictOnError]
  cases error.isReported with
  | true => exact .inl ⟨rfl, rfl⟩
  | false => exact .inr ⟨rfl, rfl⟩

/-- An error of the sender ends the command after a log that shows the progress of the datagrams
that went out, and no message. -/
theorem ends_of_log (log : List Event) (hparse : parse arguments = .ok config)
    (hreport : rehearse arguments script = .ofEvents (verdictOnError error).1
      (summaryEvent config :: (log ++ (verdictOnError error).2)))
    (htexts : Log.texts log =
      (List.range (Log.sentCount log)).map (Sender.progressText config.count))
    (hquiet : ∀ event ∈ log, event.errorOutput = "") :
    (Failure.sender error).Ends arguments (rehearse arguments script) := by
  have hmessage : IsMessage (verdictOnError error).2 := by
    rcases verdictOnError_cases error with ⟨-, hverdict⟩ | ⟨-, hverdict⟩
    · exact .inr ⟨_, congrArg Prod.snd hverdict⟩
    · exact .inl (congrArg Prod.snd hverdict)
  have hcount : Log.sentCount (rehearse arguments script).events = Log.sentCount log := by
    have htail : Log.sentCount (verdictOnError error).2 = 0 := by
      rcases hmessage with htail | ⟨text, htail⟩
      · rw [htail]; rfl
      · rw [htail]; rfl
    rw [hreport, Report.ofEvents, Log.sentCount_outward]
    show Log.sentCount ([summaryEvent config] ++ (log ++ _)) = _
    rw [Log.sentCount_append, Log.sentCount_append, htail]
    exact Nat.zero_add _
  refine ⟨config, hparse, ?_, ?_⟩
  · rw [hcount, shown, ← htexts, hreport]
    exact output_after_summary config log hmessage
  · have herrors := errorOutput_after_summary config (verdictOnError error).2 hquiet
    rw [hreport]
    rcases verdictOnError_cases error with ⟨hreported, hverdict⟩ | ⟨hescapes, hverdict⟩
    · rw [hverdict] at herrors ⊢
      rw [if_pos hreported]
      exact ⟨rfl, herrors.trans (String.join_cons.trans String.append_empty)⟩
    · rw [hverdict] at herrors ⊢
      rw [if_neg (by simp [hescapes])]
      exact ⟨rfl, herrors⟩

/-- Setting the sender up leaves at most a socket that is opened and closed again. -/
theorem ends_of_create_error (log : List Event) (hparse : parse arguments = .ok config)
    (hcreate : Sender.create (rehearsal false) config (Sender.defaultPolicy config) false
      (({ script } : Stage).next (summaryEvent config)) =
        (.error error, (({ script } : Stage).next (summaryEvent config)).after log))
    (hlog : log = [] ∨ log = [.opened, .closed]) :
    (Failure.sender error).Ends arguments (rehearse arguments script) := by
  refine ends_of_log log hparse (rehearse_of_create_error hparse hcreate) ?_ ?_
  · rcases hlog with rfl | rfl
    · rfl
    · rfl
  · rcases hlog with rfl | rfl
    · simp
    · simp [Event.errorOutput]

section SetUp

variable {fault : Fault}

theorem ends_of_unresolved (hparse : parse arguments = .ok config)
    (hresolve : Endpoint.resolve? config.server config.port = none) :
    (Failure.sender .unresolved).Ends arguments (rehearse arguments script) := by
  have hcreate := Sender.create_apply false false config (Sender.defaultPolicy config)
    (({ script } : Stage).next (summaryEvent config))
  rw [hresolve] at hcreate
  exact ends_of_create_error [] hparse hcreate (.inl rfl)

theorem ends_of_noSocket (hparse : parse arguments = .ok config)
    (hresolve : Endpoint.resolve? config.server config.port = some destination)
    (hsocket : script.socketFault = some fault) :
    (Failure.sender (.noSocket fault)).Ends arguments (rehearse arguments script) := by
  have hcreate := Sender.create_apply false false config (Sender.defaultPolicy config)
    (({ script } : Stage).next (summaryEvent config))
  have hfault : Sender.socketFault? false
      (({ script } : Stage).next (summaryEvent config)).script = some fault := hsocket
  rw [hresolve] at hcreate
  simp only [hfault] at hcreate
  exact ends_of_create_error [] hparse hcreate (.inl rfl)

theorem ends_of_noWakePair (hparse : parse arguments = .ok config)
    (hresolve : Endpoint.resolve? config.server config.port = some destination)
    (hsocket : script.socketFault = none) (hwakePair : script.wakePairFault = some fault) :
    (Failure.sender (.noWakePair fault)).Ends arguments (rehearse arguments script) := by
  have hcreate := Sender.create_apply false false config (Sender.defaultPolicy config)
    (({ script } : Stage).next (summaryEvent config))
  have hnone : Sender.socketFault? false
      (({ script } : Stage).next (summaryEvent config)).script = none := hsocket
  have hfault : (({ script } : Stage).next (summaryEvent config)).script.wakePairFault =
      some fault := hwakePair
  rw [hresolve] at hcreate
  simp only [hnone, hfault] at hcreate
  exact ends_of_create_error [.opened, .closed] hparse hcreate (.inr rfl)

end SetUp

/-! ## The run -/

section Run

variable {log : List Event} {result : Except SenderError Nat} {final : Sender}

theorem endsBy_of_error
    (hrun : Sender.Runs false { config, policy := Sender.defaultPolicy config, destination }
      (runStage config script) log (.error error) final) :
    (Sender.runAct (runStage config script) log (.error error) final).EndsBy config.count
      config.retries script .failed := by
  obtain ⟨ending, hends⟩ := hrun.exists_endsBy rfl rfl
  have hfailed : ending = .failed := hends.eq_ending
  rw [hfailed] at hends
  exact hends

theorem ends_of_runs (hparse : parse arguments = .ok config)
    (hready : Sender.Ready false config script destination)
    (hrun : Sender.Runs false { config, policy := Sender.defaultPolicy config, destination }
      (runStage config script) log (.error error) final) :
    (Failure.sender error).Ends arguments (rehearse arguments script) := by
  obtain ⟨_, sent, -, -, hsent, htexts, -⟩ := endsBy_of_error hrun
  refine ends_of_log (.opened :: log) hparse (rehearse_of_runs hparse hready hrun) ?_
    (errorOutput_opened hrun.errorOutput)
  rw [show Log.sentCount (.opened :: log) = sent from hsent]
  exact htexts

section Events

variable (hparse : parse arguments = .ok config)
  (hready : Sender.Ready false config script destination)
  (hrun : Sender.Runs false { config, policy := Sender.defaultPolicy config, destination }
    (runStage config script) log result final)

include hparse hready hrun

theorem lastMove?_rehearse :
    Log.lastMove? (rehearse arguments script).events = Log.lastMove? log := by
  rw [rehearse_of_runs hparse hready hrun]
  show Log.lastMove? ((runEvents config log _).filter Event.isOutward) = _
  rw [outward_runEvents (isMessage_verdict final result)]
  exact Log.lastMove?_outward log

/-- In the events of a command it shows whether its run has failed because a pause was too long. -/
theorem meets_waitTooLong_iff :
    Meets arguments script (rehearse arguments script).events (.sender .waitTooLong) ↔
      result = .error .waitTooLong := by
  have hreport := rehearse_reportsRun hparse hready hrun
  have hdue : Sender.pauseDue? config (Sender.defaultPolicy config)
      (rehearse arguments script).events =
        Sender.pauseDue? config (Sender.defaultPolicy config) log := by
    rw [Sender.pauseDue?, Sender.pauseDue?, lastMove?_rehearse hparse hready hrun,
      hreport.failures]
  have hstop : ((runStage config script).after log).stopRequested =
      script.stopsWithin (rehearse arguments script).events := by
    rw [hreport.stopsWithin]
    exact Stage.stopRequested_after _ _
  rw [hrun.waitTooLong_iff, hstop]
  show _ ↔ _ ∧ ∃ due, Sender.pauseDue? config (Sender.defaultPolicy config) log = some due ∧ _
  rw [← hdue]
  constructor
  · rintro ⟨other, hother, -, hlong⟩
    cases hparse.symm.trans hother
    exact hlong
  · exact fun hlong => ⟨config, hparse, ⟨destination, hready⟩, hlong⟩

theorem eq_notSent_of_leadsTo {fault : Fault}
    (hleads : LeadsTo config script (rehearse arguments script).events (.notSent fault)) :
    result = .error (.notSent fault) := by
  obtain ⟨-, -, hfailures, hdelivery⟩ := hleads
  have hreport := rehearse_reportsRun hparse hready hrun
  rw [hreport.failures] at hfailures
  rw [hreport.attemptCount] at hdelivery
  -- the attempts are used up, which is known of no other result
  by_cases hused : ∃ other, result = .error (.notSent other)
  · obtain ⟨other, rfl⟩ := hused
    obtain ⟨_, _, -, hanswer, -, -, -, -, hnotSent⟩ := endsBy_of_error hrun
    cases hanswer
    have hother := (hnotSent other rfl).2.2
    cases hother.symm.trans hdelivery
    rfl
  · have hle : Log.failuresInARow log ≤ config.retries :=
      hrun.failures_le fun other heq => hused ⟨other, heq⟩
    omega

end Events

theorem meets_of_escape_of_ready (hparse : parse arguments = .ok config)
    (hready : Sender.Ready false config script destination)
    (hescape : (rehearse arguments script).ending = .escape error) :
    Meets arguments script (rehearse arguments script).events (.sender error) := by
  obtain ⟨log, result, final, hrun⟩ := Sender.exists_runs false
    { config, policy := Sender.defaultPolicy config, destination } (runStage config script)
  cases result with
  | ok sent =>
      rw [(rehearse_reportsRun hparse hready hrun).ending, verdict] at hescape
      split at hescape
      · cases hescape
      · cases hescape
  | error other =>
      obtain ⟨rfl, hescapes⟩ := (ends_of_runs hparse hready hrun).escape_cases hescape
      rcases hrun.error_of_open rfl with ⟨fault, rfl⟩ | rfl
      · cases hescapes
      · exact (meets_waitTooLong_iff hparse hready hrun).mpr rfl

end Run

/-! ## Every command line -/

theorem ends_of_argumentError {error : ArgumentError} (h : parse arguments = .error error) :
    (Failure.argument error).Ends arguments (rehearse arguments script) := by
  have hdiagnoses := @diagnoses_of_argumentError arguments script error h
  rw [Diagnoses, h] at hdiagnoses
  refine ⟨?_, hdiagnoses⟩
  rw [rehearse_of_argumentError h]
  rfl

/-- Every failure that is met ends the command. -/
theorem Meets.ends {failure : Failure}
    (h : Meets arguments script (rehearse arguments script).events failure) :
    failure.Ends arguments (rehearse arguments script) := by
  cases failure with
  | argument error => exact ends_of_argumentError h
  | sender error =>
      have hmeets := h
      obtain ⟨config, hparse, h⟩ := h
      cases error with
      | unresolved => exact ends_of_unresolved hparse h.1
      | noSocket fault =>
          obtain ⟨destination, hresolve⟩ := Option.isSome_iff_exists.mp h.1
          exact ends_of_noSocket hparse hresolve h.2.1
      | noWakePair fault =>
          obtain ⟨destination, hresolve⟩ := Option.isSome_iff_exists.mp h.1
          exact ends_of_noWakePair hparse hresolve h.2.1 h.2.2
      | notSent fault =>
          obtain ⟨destination, hready⟩ := h.1
          obtain ⟨log, result, final, hrun⟩ := Sender.exists_runs false
            { config, policy := Sender.defaultPolicy config, destination } (runStage config script)
          obtain rfl := eq_notSent_of_leadsTo hparse hready hrun h
          exact ends_of_runs hparse hready hrun
      | waitTooLong =>
          obtain ⟨destination, hready⟩ := h.1
          obtain ⟨log, result, final, hrun⟩ := Sender.exists_runs false
            { config, policy := Sender.defaultPolicy config, destination } (runStage config script)
          obtain rfl := (meets_waitTooLong_iff hparse hready hrun).mp hmeets
          exact ends_of_runs hparse hready hrun
      | closed => exact absurd h id

/-- What escapes a command line is a failure that it has met. -/
theorem meets_of_escape (hescape : (rehearse arguments script).ending = .escape error) :
    Meets arguments script (rehearse arguments script).events (.sender error) := by
  cases hparse : parse arguments with
  | error error =>
      cases hescape.symm.trans (ends_of_argumentError hparse).1
  | ok config =>
      cases hresolve : Endpoint.resolve? config.server config.port with
      | none => cases ((ends_of_unresolved hparse hresolve).escape_cases hescape).2
      | some destination =>
          cases hsocket : script.socketFault with
          | some fault =>
              cases ((ends_of_noSocket hparse hresolve hsocket).escape_cases hescape).2
          | none =>
              cases hwakePair : script.wakePairFault with
              | some fault =>
                  have hends := ends_of_noWakePair hparse hresolve hsocket hwakePair
                  obtain ⟨rfl, -⟩ := hends.escape_cases hescape
                  exact ⟨config, hparse, Option.isSome_of_eq_some hresolve, hsocket, hwakePair⟩
              | none => exact meets_of_escape_of_ready hparse ⟨hresolve, hsocket, hwakePair⟩ hescape

/-- A command line that meets no failure is complete or interrupted. -/
theorem exit_of_not_meets
    (h : ∀ failure, ¬ Meets arguments script (rehearse arguments script).events failure) :
    (rehearse arguments script).ending = .exit exitOk ∨
      (rehearse arguments script).ending = .exit exitInterrupted := by
  cases hending : (rehearse arguments script).ending with
  | escape error => exact absurd (meets_of_escape hending) (h _)
  | exit code =>
      rcases rehearse_cases hending with ⟨rfl, -⟩ | ⟨rfl, -⟩ | ⟨rfl, hdiagnoses⟩
      · exact .inl rfl
      · exact .inr rfl
      · rw [Diagnoses] at hdiagnoses
        split at hdiagnoses
        · next error hparse => exact absurd hparse (h (.argument error))
        · next config hparse =>
            obtain ⟨error, hleads, -⟩ := hdiagnoses
            refine absurd ⟨config, hparse, ?_⟩ (h (.sender error))
            cases error with
            | unresolved | noSocket | notSent => exact hleads
            | noWakePair | waitTooLong | closed => exact absurd hleads id

/-- A failure that a command line meets ends it, and there is one message and the exit code of a
failure unless the failure escapes. A command line that meets none is complete or interrupted. -/
theorem rehearse_of_failure (arguments : List String) (script : Script) :
    (∀ failure, Meets arguments script (rehearse arguments script).events failure →
      failure.Ends arguments (rehearse arguments script)) ∧
    ((∀ failure, ¬ Meets arguments script (rehearse arguments script).events failure) →
      (rehearse arguments script).ending = .exit exitOk ∨
        (rehearse arguments script).ending = .exit exitInterrupted) :=
  ⟨fun _ h => h.ends, exit_of_not_meets⟩

/-- There is no descriptor left for the wake pair, and the pause after a datagram never ends. -/
theorem rehearse_escapes :
    (rehearse ["-c", "1"] { wakePairFault := some (.numbered 24 "Too many open files") }).ending =
        .escape (.noWakePair (.numbered 24 "Too many open files")) ∧
      (rehearse ["-c", "2", "--interval", "inf"] {}).ending = .escape .waitTooLong := by
  constructor
  · decide +kernel
  · decide +kernel

end Client

end Heartbeat
