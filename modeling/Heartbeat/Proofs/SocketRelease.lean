import Heartbeat.Proofs.ClientResult
import Heartbeat.Proofs.History

/-!
# The socket is released

A sender that opens a socket of its own closes it again, whichever way it comes to its end. If the
wake pair cannot be created that is part of setting it up; otherwise it is the end of its run, which
is the same for a run that is complete, stopped, out of retries or ended by a wait. Between the two
nothing happens to the socket, because all that a run does is part of sending (`Runs.log_eq`).

The socket is closed for good: of what may be asked of a sender after its run only an attempt to
send is seen at all, and that neither opens nor closes anything (`releases_socket`).
-/

namespace Heartbeat

namespace Event

def isSocket : Event → Bool
  | opened | closed => true
  | _ => false

theorem BySending.isSocket {destination : Endpoint} {event : Event}
    (h : event.BySending destination) : event.isSocket = false := by
  cases event with
  | opened | closed => exact absurd h id
  | _ => rfl

end Event

namespace Log

/-- A socket is opened at most once. It is closed only if it was opened, and then once, as the last
thing that happens. -/
structure ReleasesSocket (events : List Event) : Prop where
  opens : events.count .opened ≤ 1
  unopened : .opened ∉ events → .closed ∉ events
  closes : .opened ∈ events → events.count .closed = 1 ∧ events.getLast? = some .closed

variable {events : List Event}

theorem notMem_of_isSocket (h : ∀ event ∈ events, event.isSocket = false) :
    .opened ∉ events ∧ .closed ∉ events :=
  ⟨fun hmem => Bool.noConfusion (h _ hmem), fun hmem => Bool.noConfusion (h _ hmem)⟩

theorem releasesSocket_nil : ReleasesSocket [] where
  opens := Nat.zero_le _
  unopened := fun _ => List.not_mem_nil
  closes := fun hmem => absurd hmem List.not_mem_nil

/-- Without a socket nothing happens. With one, its opening and its closing enclose everything
else. -/
def Encloses (opens : Prop) (events : List Event) : Prop :=
  (¬ opens ∧ events = []) ∨
    (opens ∧ ∃ between, events = .opened :: (between ++ [.closed]) ∧
      ∀ event ∈ between, event.isSocket = false)

variable {opens : Prop}

theorem Encloses.mem_opened_iff (h : Encloses opens events) : .opened ∈ events ↔ opens := by
  rcases h with ⟨hnot, rfl⟩ | ⟨hopens, between, rfl, -⟩
  · exact iff_of_false List.not_mem_nil hnot
  · exact iff_of_true List.mem_cons_self hopens

theorem Encloses.releasesSocket (h : Encloses opens events) : ReleasesSocket events := by
  rcases h with ⟨-, rfl⟩ | ⟨-, between, rfl, hbetween⟩
  · exact releasesSocket_nil
  · obtain ⟨hopened, hclosed⟩ := notMem_of_isSocket hbetween
    refine ⟨?_, ?_, ?_⟩
    · rw [List.count_cons_self, List.count_append, List.count_eq_zero.mpr hopened]
      decide
    · intro hnone
      exact absurd List.mem_cons_self hnone
    · intro _
      refine ⟨?_, ?_⟩
      · rw [List.count_cons_of_ne (by decide), List.count_append,
          List.count_eq_zero.mpr hclosed]
        decide
      · rw [← List.cons_append, List.getLast?_append]
        rfl

end Log

namespace Sender

section Run

variable {hold : Bool} {sender final : Sender} {stage : Stage} {log : List Event}

/-- A run closes the socket at its end, and neither opens nor closes one before that. -/
theorem Runs.log_eq {result : Except SenderError Nat}
    (h : Runs hold sender stage log result final) :
    ∃ body, log = body ++ [.closed] ∧ ∀ event ∈ body, event.isSocket = false := by
  obtain ⟨body, _, _, ending, hsend, rfl, hending⟩ := h.exists_sendsAll
  refine ⟨body ++ ending, rfl, ?_⟩
  intro event hevent
  rcases List.mem_append.mp hevent with hbody | hmem
  · exact (hsend.bySending event hbody).isSocket
  · rcases hending with rfl | rfl
    · cases hmem
    · rw [List.mem_singleton.mp hmem]
      rfl

theorem Runs.closed {result : Except SenderError Nat}
    (h : Runs hold sender stage log result final) : final.closed = true := by
  cases h with
  | failed => rfl
  | cutShort => rfl
  | complete => rfl

theorem Sleeps.log_of_closed {delay : Binary64} {result : Except SenderError Bool}
    (h : Sleeps sender delay stage log result) (hclosed : sender.closed = true) : log = [] := by
  cases h with
  | pending => rfl
  | failed => rfl
  | waited _ herror =>
      unfold waitError? at herror
      rw [hclosed] at herror
      split at herror
      · split at herror
        · cases herror
        · cases herror
      · next hdelay => exact if_neg hdelay

end Run

section Commands

variable {hold : Bool} {sender final : Sender} {stage : Stage} {command : Command}
  {log : List Event} {answer : Except SenderError Answer}

theorem Performs.isSocket (h : Performs hold sender stage command log answer final)
    (hrun : command ≠ .run) (hclose : command ≠ .close) :
    ∀ event ∈ log, event.isSocket = false := by
  cases h with
  | run => exact absurd rfl hrun
  | close => exact absurd rfl hclose
  | stop => simp
  | sleep hsleep =>
      intro event hevent
      obtain ⟨seconds, rfl | rfl⟩ := Event.eq_of_isPause (hsleep.isPause event hevent)
      · rfl
      · rfl
  | send hsend => exact fun event hevent => (hsend.bySending event hevent).isSocket

theorem Performs.closed (h : Performs hold sender stage command log answer final)
    (hclosed : sender.closed = true) : final.closed = true := by
  cases h with
  | run hrun => exact hrun.closed
  | send hsend => exact hsend.keeps.closed.trans hclosed
  | close => rfl
  | stop => exact hclosed
  | sleep => exact hclosed

theorem Performs.log_of_closed (h : Performs hold sender stage command log answer final)
    (hclosed : sender.closed = true) (hrun : command ≠ .run) (hclose : command ≠ .close)
    (hsend : command ≠ .send) : log = [] := by
  cases h with
  | run => exact absurd rfl hrun
  | close => exact absurd rfl hclose
  | send => exact absurd rfl hsend
  | stop => rfl
  | sleep hsleep => exact hsleep.log_of_closed hclosed

end Commands

/-! ## Whole lives -/

/-- A socket is opened: the server resolves, and the socket can be created. -/
def OpensSocket (config : Config) (script : Script) : Prop :=
  (Endpoint.resolve? config.server config.port).isSome ∧ script.socketFault = none

/-- All that happens to a sender with a socket of its own: it is set up, and if that succeeds the
commands are carried out. -/
def life (hold : Bool) (config : Config) (policy : RetryPolicy) (script : Script)
    (commands : List Command) : List Event :=
  match create (rehearsal hold) config policy false { script } with
  | (.error _, stage) => stage.events.toList
  | (.ok sender, stage) =>
    stage.events.toList ++ (rehearse hold commands sender stage).flatMap Act.events

theorem flatMap_events_cons {hold : Bool} {sender final : Sender} {stage : Stage}
    {command : Command} {log : List Event} {answer : Except SenderError Answer}
    (h : Performs hold sender stage command log answer final) (commands : List Command) :
    (rehearse hold (command :: commands) sender stage).flatMap Act.events =
      log ++ (rehearse hold commands final (stageAfter stage command log)).flatMap
        Act.events := by
  rw [rehearse_cons h, List.flatMap_cons]
  rfl

/-- As long as a sender neither runs nor is closed, nothing happens to its socket. -/
theorem isSocket_of_mem_events (hold : Bool) (commands : List Command) (sender : Sender)
    (stage : Stage) (h : ∀ command ∈ commands, command ≠ .run ∧ command ≠ .close) :
    ∀ event ∈ (rehearse hold commands sender stage).flatMap Act.events,
      event.isSocket = false := by
  induction commands generalizing sender stage with
  | nil => simp [rehearse]
  | cons command commands ih =>
      obtain ⟨log, answer, final, hperforms⟩ := exists_performs hold sender stage command
      obtain ⟨hrun, hclose⟩ := h command List.mem_cons_self
      intro event hevent
      rw [flatMap_events_cons hperforms] at hevent
      rcases List.mem_append.mp hevent with hlog | hrest
      · exact hperforms.isSocket hrun hclose event hlog
      · exact ih _ _ (fun other hother => h other (List.mem_cons_of_mem _ hother)) event hrest

/-- Of a closed sender that neither runs nor sends nothing is seen. -/
theorem events_of_closed (hold : Bool) (commands : List Command) (sender : Sender)
    (stage : Stage) (hclosed : sender.closed = true)
    (h : ∀ command ∈ commands, command ≠ .run ∧ command ≠ .close) (hsend : .send ∉ commands) :
    (rehearse hold commands sender stage).flatMap Act.events = [] := by
  induction commands generalizing sender stage with
  | nil => rfl
  | cons command commands ih =>
      obtain ⟨log, answer, final, hperforms⟩ := exists_performs hold sender stage command
      obtain ⟨hrun, hclose⟩ := h command List.mem_cons_self
      obtain ⟨hne, hrest⟩ := List.ne_and_not_mem_of_not_mem_cons hsend
      rw [flatMap_events_cons hperforms, hperforms.log_of_closed hclosed hrun hclose hne.symm,
        List.nil_append]
      exact ih _ _ (hperforms.closed hclosed)
        (fun other hother => h other (List.mem_cons_of_mem _ hother)) hrest

/-- The events of a sender that is set up and then runs, with what comes before and behind the
run. -/
theorem events_around_run (hold : Bool) (before after : List Command) (sender : Sender)
    (stage : Stage) (hbefore : ∀ command ∈ before, command ≠ .run ∧ command ≠ .close)
    (hafter : ∀ command ∈ after, command ≠ .run ∧ command ≠ .close) :
    ∃ between rest,
      (rehearse hold (before ++ [.run]) sender stage).flatMap Act.events =
        between ++ [.closed] ∧
      (rehearse hold (before ++ .run :: after) sender stage).flatMap Act.events =
        between ++ [.closed] ++ rest ∧
      (∀ event ∈ between, event.isSocket = false) ∧
      (∀ event ∈ rest, event.isSocket = false) ∧ (.send ∉ after → rest = []) := by
  have hidle := isSocket_of_mem_events hold before sender stage hbefore
  obtain ⟨log, answer, final, hperforms⟩ := exists_performs hold
    (reached hold before sender stage).1 (reached hold before sender stage).2 .run
  rw [rehearse_append, rehearse_append, List.flatMap_append, List.flatMap_append,
    flatMap_events_cons hperforms, flatMap_events_cons hperforms]
  cases hperforms with
  | run hrun =>
      obtain ⟨body, rfl, hbody⟩ := hrun.log_eq
      refine ⟨(rehearse hold before sender stage).flatMap Act.events ++ body, _, ?_, ?_, ?_,
        isSocket_of_mem_events hold after final
          (stageAfter (reached hold before sender stage).2 .run (body ++ [.closed])) hafter,
        events_of_closed hold after final _ hrun.closed hafter⟩
      · simp [rehearse]
      · simp
      · intro event hevent
        rcases List.mem_append.mp hevent with hfirst | hlast
        · exact hidle event hfirst
        · exact hbody event hlast

end Sender

/-! ## The command -/

namespace Client

variable {arguments : List String} {script : Script}

/-- The arguments are valid, and a socket is opened for them. -/
def OpensSocket (arguments : List String) (script : Script) : Prop :=
  ∃ config, parse arguments = .ok config ∧ Sender.OpensSocket config script

/-- What is reported of an error of the sender does not concern the network. -/
theorem outward_of_create_error (config : Config) (error : SenderError) (log : List Event) :
    (summaryEvent config :: (log ++ (verdictOnError error).2)).filter Event.isOutward =
      log.filter Event.isOutward := by
  show (log ++ (verdictOnError error).2).filter Event.isOutward = _
  rw [List.filter_append, verdictOnError]
  split
  · exact List.append_nil _
  · exact List.append_nil _

theorem isSocket_outward {body : List Event} (h : ∀ event ∈ body, event.isSocket = false) :
    ∀ event ∈ body.filter Event.isOutward, event.isSocket = false :=
  fun event hevent => h event (List.mem_filter.mp hevent).1

theorem rehearse_encloses (arguments : List String) (script : Script) :
    Log.Encloses (OpensSocket arguments script) (rehearse arguments script).events := by
  cases hparse : parse arguments with
  | error error =>
      refine .inl ⟨?_, ?_⟩
      · rintro ⟨config, hok, -⟩
        cases hparse.symm.trans hok
      · rw [rehearse_of_argumentError hparse]
        cases error <;> rfl
  | ok config =>
      have hcreate := Sender.create_apply false false config (Sender.defaultPolicy config)
        (({ script } : Stage).next (summaryEvent config))
      cases hresolve : Endpoint.resolve? config.server config.port with
      | none =>
          rw [hresolve] at hcreate
          refine .inl ⟨?_, ?_⟩
          · rintro ⟨other, hother, hsome, -⟩
            cases hparse.symm.trans hother
            rw [hresolve] at hsome
            cases hsome
          · rw [@rehearse_of_create_error arguments script config _ [] hparse hcreate]
            exact outward_of_create_error config _ []
      | some destination =>
          have hopens : script.socketFault = none → OpensSocket arguments script :=
            fun hsocket => ⟨config, hparse, Option.isSome_of_eq_some hresolve, hsocket⟩
          rw [hresolve] at hcreate
          cases hsocket : script.socketFault with
          | some fault =>
              have hfault : Sender.socketFault? false
                  (({ script } : Stage).next (summaryEvent config)).script = some fault := hsocket
              simp only [hfault] at hcreate
              refine .inl ⟨?_, ?_⟩
              · rintro ⟨-, -, -, hnone⟩
                cases hsocket.symm.trans hnone
              · rw [@rehearse_of_create_error arguments script config _ [] hparse hcreate]
                exact outward_of_create_error config _ []
          | none =>
              have hfault : Sender.socketFault? false
                  (({ script } : Stage).next (summaryEvent config)).script = none := hsocket
              refine .inr ⟨hopens hsocket, ?_⟩
              cases hwakePair : script.wakePairFault with
              | some fault =>
                  have hfault' : (({ script } : Stage).next
                      (summaryEvent config)).script.wakePairFault = some fault := hwakePair
                  simp only [hfault, hfault'] at hcreate
                  refine ⟨[], ?_, by simp⟩
                  rw [rehearse_of_create_error hparse hcreate]
                  exact outward_of_create_error config _ [.opened, .closed]
              | none =>
                  have hready : Sender.Ready false config script destination :=
                    ⟨hresolve, hsocket, hwakePair⟩
                  obtain ⟨log, result, final, hrun⟩ := Sender.exists_runs false
                    { config, policy := Sender.defaultPolicy config, destination }
                    (runStage config script)
                  obtain ⟨body, rfl, hbody⟩ := hrun.log_eq
                  have houtward := @outward_runEvents config (body ++ [.closed]) _
                    (isMessage_verdict final result)
                  rw [List.filter_append] at houtward
                  refine ⟨_, ?_, isSocket_outward hbody⟩
                  rw [rehearse_of_runs hparse hready hrun]
                  exact houtward

end Client

namespace Sender

theorem life_of_create_error {hold : Bool} {config : Config} {policy : RetryPolicy}
    {script : Script} {error : SenderError} {stage : Stage}
    (h : create (rehearsal hold) config policy false { script } = (.error error, stage))
    (commands : List Command) :
    life hold config policy script commands = stage.events.toList := by
  rw [life, h]

theorem life_of_ready {hold : Bool} {config : Config} {policy : RetryPolicy} {script : Script}
    {destination : Endpoint} (hready : Ready false config script destination)
    (commands : List Command) :
    life hold config policy script commands =
      .opened :: (rehearse hold commands { config, policy, destination }
        (({ script } : Stage).after [.opened])).flatMap Act.events := by
  rw [life, create_apply, hready.resolved]
  simp only [hready.socket, hready.wakePair]
  rfl

/-- A sender is set up and runs. Whatever is asked of it behind the run does nothing to the socket,
and nothing at all unless it is made to send. -/
theorem life_encloses (hold : Bool) (config : Config) (policy : RetryPolicy) (script : Script)
    (before after : List Command)
    (hbefore : ∀ command ∈ before, command ≠ .run ∧ command ≠ .close)
    (hafter : ∀ command ∈ after, command ≠ .run ∧ command ≠ .close) :
    ∃ rest,
      life hold config policy script (before ++ .run :: after) =
        life hold config policy script (before ++ [.run]) ++ rest ∧
      (∀ event ∈ rest, event.isSocket = false) ∧ (.send ∉ after → rest = []) ∧
      Log.Encloses (OpensSocket config script)
        (life hold config policy script (before ++ [.run])) := by
  have hcreate := create_apply hold false config policy { script }
  cases hresolve : Endpoint.resolve? config.server config.port with
  | none =>
      rw [hresolve] at hcreate
      rw [life_of_create_error hcreate, life_of_create_error hcreate]
      refine ⟨[], rfl, by simp, fun _ => rfl, .inl ⟨?_, rfl⟩⟩
      simp [OpensSocket, hresolve]
  | some destination =>
      rw [hresolve] at hcreate
      cases hsocket : script.socketFault with
      | some fault =>
          simp only [socketFault?, hsocket] at hcreate
          rw [life_of_create_error hcreate, life_of_create_error hcreate]
          refine ⟨[], rfl, by simp, fun _ => rfl, .inl ⟨?_, rfl⟩⟩
          simp [OpensSocket, hsocket]
      | none =>
          have hopens : OpensSocket config script :=
            ⟨Option.isSome_of_eq_some hresolve, hsocket⟩
          cases hwakePair : script.wakePairFault with
          | some fault =>
              simp only [socketFault?, hsocket, hwakePair] at hcreate
              rw [life_of_create_error hcreate, life_of_create_error hcreate]
              exact ⟨[], rfl, by simp, fun _ => rfl, .inr ⟨hopens, [], rfl, by simp⟩⟩
          | none =>
              have hready : Ready false config script destination :=
                ⟨hresolve, hsocket, hwakePair⟩
              obtain ⟨between, rest, hlife, hwhole, hbetween, hrest, hnone⟩ :=
                events_around_run hold before after { config, policy, destination }
                  (({ script } : Stage).after [.opened]) hbefore hafter
              rw [life_of_ready hready, life_of_ready hready, hlife, hwhole]
              exact ⟨rest, rfl, hrest, hnone, .inr ⟨hopens, between, rfl, hbetween⟩⟩

/-- The socket of a command line is released whatever happens, and it is opened just when there is
something to send from it. The same holds for the socket of a sender that runs once and is not
closed by its owner. Behind the run nothing happens to the socket any more, and nothing at all
unless the sender is made to send a datagram outside of a run. -/
theorem releases_socket (arguments : List String) (hold : Bool) (config : Config)
    (policy : RetryPolicy) (script : Script) (before after : List Command)
    (hbefore : ∀ command ∈ before, command ≠ .run ∧ command ≠ .close)
    (hafter : ∀ command ∈ after, command ≠ .run ∧ command ≠ .close) :
    Log.ReleasesSocket (Client.rehearse arguments script).events ∧
      (.opened ∈ (Client.rehearse arguments script).events ↔
        Client.OpensSocket arguments script) ∧
      Log.ReleasesSocket (life hold config policy script (before ++ [.run])) ∧
      (.opened ∈ life hold config policy script (before ++ [.run]) ↔
        OpensSocket config script) ∧
      ∃ rest,
        life hold config policy script (before ++ .run :: after) =
          life hold config policy script (before ++ [.run]) ++ rest ∧
        (∀ event ∈ rest, event.isSocket = false) ∧ (.send ∉ after → rest = []) := by
  have hclient := Client.rehearse_encloses arguments script
  obtain ⟨rest, hwhole, hrest, hnone, hlife⟩ :=
    life_encloses hold config policy script before after hbefore hafter
  exact ⟨hclient.releasesSocket, hclient.mem_opened_iff, hlife.releasesSocket,
    hlife.mem_opened_iff, rest, hwhole, hrest, hnone⟩

/-- A sender is asked to stop, sends a datagram all the same, runs, and is asked to stop once
more. -/
theorem releases_socket_of_standard :
    (∀ command ∈ [Command.stop 1, .send], command ≠ .run ∧ command ≠ .close) ∧
      (∀ command ∈ [Command.stop 2], command ≠ .run ∧ command ≠ .close) ∧
      Log.ReleasesSocket (Client.rehearse ["-c", "1"] {}).events ∧
      (.opened ∈ (Client.rehearse ["-c", "1"] {}).events ↔ Client.OpensSocket ["-c", "1"] {}) ∧
      Log.ReleasesSocket (life false Config.standard {} {} ([.stop 1, .send] ++ [.run])) ∧
      (.opened ∈ life false Config.standard {} {} ([.stop 1, .send] ++ [.run]) ↔
        OpensSocket Config.standard {}) ∧
      ∃ rest,
        life false Config.standard {} {} ([.stop 1, .send] ++ .run :: [.stop 2]) =
          life false Config.standard {} {} ([.stop 1, .send] ++ [.run]) ++ rest ∧
        (∀ event ∈ rest, event.isSocket = false) ∧ (.send ∉ [Command.stop 2] → rest = []) := by
  have hbefore : ∀ command ∈ [Command.stop 1, .send], command ≠ .run ∧ command ≠ .close := by
    decide
  have hafter : ∀ command ∈ [Command.stop 2], command ≠ .run ∧ command ≠ .close := by decide
  exact ⟨hbefore, hafter,
    releases_socket ["-c", "1"] false Config.standard {} {} _ _ hbefore hafter⟩

end Sender

end Heartbeat
