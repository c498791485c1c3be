import Heartbeat.Proofs.RunRules

/-!
# What the log of a run holds

The attempts for one datagram leave setbacks, which are refusals and pauses, and at the end the
datagram if it went out (`Sends.log_eq`). The log of a run is made of these pieces, with the
progress line behind each datagram. From that follow the facts an observer can check: what was
written is the progress lines of the datagrams that went out, in order (`SendsAll.texts_eq`); a
loop that ends without an error has sent everything or has seen a stop (`SendsAll.stop_of_ok`);
and the error of a refused datagram comes only after all its attempts have failed, with the fault
of the last one (`SendsAll.of_notSent`).
-/

namespace Heartbeat

namespace Event

/-- Does the event hold a sender up without the network having a part in it? -/
def isPause : Event → Bool
  | waited _ | heldBack _ => true
  | _ => false

theorem eq_of_isPause {event : Event} (h : event.isPause = true) :
    ∃ seconds, event = .waited seconds ∨ event = .heldBack seconds := by
  cases event with
  | waited seconds => exact ⟨seconds, .inl rfl⟩
  | heldBack seconds => exact ⟨seconds, .inr rfl⟩
  | _ => cases h

/-- Is a datagram that the event hands to the network a heartbeat for the destination? -/
def GoesTo (destination : Endpoint) : Event → Prop
  | sent payload target _ | refused payload target => payload = heartbeat ∧ target = destination
  | _ => True

/-- Is the event part of sending heartbeats to the destination, that is a heartbeat handed to the
network, a pause, or a line for the standard output? -/
def BySending (destination : Endpoint) : Event → Prop
  | sent payload target _ | refused payload target => payload = heartbeat ∧ target = destination
  | waited _ | heldBack _ | printed _ => True
  | _ => False

theorem BySending.goesTo {destination : Endpoint} {event : Event}
    (h : event.BySending destination) : event.GoesTo destination := by
  cases event with
  | sent | refused => exact h
  | _ => trivial

theorem BySending.errorOutput {destination : Endpoint} {event : Event}
    (h : event.BySending destination) : event.errorOutput = "" := by
  cases event with
  | complained => exact absurd h id
  | _ => rfl

end Event

namespace Log

theorem sentCount_of_isPause {log : List Event} (h : ∀ event ∈ log, event.isPause = true) :
    sentCount log = 0 := by
  rw [sentCount, List.countP_eq_zero]
  intro event hevent
  obtain ⟨seconds, rfl | rfl⟩ := Event.eq_of_isPause (h event hevent)
  · exact Bool.false_ne_true
  · exact Bool.false_ne_true

theorem texts_of_isPause {log : List Event} (h : ∀ event ∈ log, event.isPause = true) :
    texts log = [] := by
  rw [texts, List.filterMap_eq_nil_iff]
  intro event hevent
  obtain ⟨seconds, rfl | rfl⟩ := Event.eq_of_isPause (h event hevent)
  · rfl
  · rfl

theorem failuresInARow_append (first rest : List Event) :
    failuresInARow (first ++ rest) = rest.foldl Event.failuresAfter (failuresInARow first) :=
  List.foldl_append

theorem failures_of_isPause {log : List Event} (h : ∀ event ∈ log, event.isPause = true)
    (failures : Nat) : log.foldl Event.failuresAfter failures = failures := by
  induction log with
  | nil => rfl
  | cons event log ih =>
      have hrest := ih fun event hmem => h event (List.mem_cons_of_mem _ hmem)
      obtain ⟨seconds, rfl | rfl⟩ := Event.eq_of_isPause (h event List.mem_cons_self)
      · exact hrest
      · exact hrest

end Log

namespace Sender

variable {hold : Bool} {sender final : Sender} {stage : Stage} {log : List Event}

/-! ## Pauses -/

theorem Sleeps.isPause {delay : Binary64} {result : Except SenderError Bool}
    (h : Sleeps sender delay stage log result) : ∀ event ∈ log, event.isPause = true := by
  cases h with
  | pending => simp
  | failed => simp
  | waited =>
      unfold waitLog
      split
      · simp [Event.isPause]
      · simp

/-- The answer of a wait says whether a stop has been requested by its end. -/
theorem Sleeps.stop_eq {delay : Binary64} {stopping : Bool}
    (h : Sleeps sender delay stage log (.ok stopping)) :
    (stage.after log).stopRequested = stopping := by
  cases h with
  | pending hstop => exact hstop
  | waited _ _ hstopping => exact hstopping

theorem Pauses.isPause {delay : Binary64} {result : Except SenderError Unit}
    (h : Pauses sender delay stage hold log result) : ∀ event ∈ log, event.isPause = true := by
  cases h with
  | heldBack => simp [Event.isPause]
  | failed hsleep => exact hsleep.isPause
  | slept hsleep => exact hsleep.isPause

/-- A wait ends with an error only because it is too long or the sender is closed. -/
theorem not_isReported_of_waitError {delay : Binary64} {error : SenderError}
    {script : Script} (h : sender.waitError? script delay = some error) :
    error.isReported = false := by
  unfold waitError? at h
  split at h
  · split at h
    · cases h; rfl
    · split at h
      · cases h; rfl
      · cases h
  · cases h

theorem Sleeps.not_isReported {delay : Binary64} {error : SenderError}
    (h : Sleeps sender delay stage log (.error error)) : error.isReported = false := by
  cases h with
  | failed _ herror => exact not_isReported_of_waitError herror

theorem Pauses.not_isReported {delay : Binary64} {error : SenderError}
    (h : Pauses sender delay stage hold log (.error error)) : error.isReported = false := by
  cases h with
  | failed hsleep => exact hsleep.not_isReported

/-! ## The attempts for one datagram -/

/-- What sending leaves of a sender when `sent` datagrams have gone out: everything but the counts
of bytes, failures and retries. -/
structure Keeps (sent : Nat) (sender final : Sender) : Prop where
  config : final.config = sender.config
  policy : final.policy = sender.policy
  destination : final.destination = sender.destination
  interrupted : final.interrupted = sender.interrupted
  closed : final.closed = sender.closed
  datagrams : final.tally.datagrams = sender.tally.datagrams + sent

theorem Keeps.trans {m n : Nat} {first second third : Sender} (h : Keeps m first second)
    (h' : Keeps n second third) : Keeps (m + n) first third where
  config := h'.config.trans h.config
  policy := h'.policy.trans h.policy
  destination := h'.destination.trans h.destination
  interrupted := h'.interrupted.trans h.interrupted
  closed := h'.closed.trans h.closed
  datagrams := by rw [h'.datagrams, h.datagrams, Nat.add_assoc]

theorem Keeps.refl (sender : Sender) : Keeps 0 sender sender := ⟨rfl, rfl, rfl, rfl, rfl, rfl⟩

theorem keeps_countFailure (sender : Sender) : Keeps 0 sender sender.countFailure :=
  ⟨rfl, rfl, rfl, rfl, rfl, rfl⟩

theorem keeps_countRetry (sender : Sender) : Keeps 0 sender sender.countRetry :=
  ⟨rfl, rfl, rfl, rfl, rfl, rfl⟩

theorem keeps_countSent (sender : Sender) (bytes : Int) : Keeps 1 sender (sender.countSent bytes) :=
  ⟨rfl, rfl, rfl, rfl, rfl, rfl⟩

theorem Sends.keeps {delay : Binary64} {retries : Nat}
    {result : Except SenderError (Option Int)}
    (h : Sends hold delay retries sender stage log result final) : Keeps 0 sender final := by
  induction h with
  | delivered => exact Keeps.refl _
  | exhausted => exact keeps_countFailure _
  | abandoned => exact keeps_countFailure _
  | notPaused => exact (keeps_countFailure _).trans (keeps_countRetry _)
  | abandonedInPause => exact (keeps_countFailure _).trans (keeps_countRetry _)
  | retried _ _ _ _ _ ih => exact ((keeps_countFailure _).trans (keeps_countRetry _)).trans ih

/-- The datagram that went out in the end, if one did. -/
def sentLog (sender : Sender) : Except SenderError (Option Int) → List Event
  | .ok (some bytes) => [sender.sentEvent bytes]
  | _ => []

/-- An event that brings a datagram no further: a refusal or a pause. -/
def Setback (sender : Sender) (event : Event) : Prop :=
  event = sender.refusedEvent ∨ event.isPause = true

theorem setback_refused_pause {delay : Binary64} {result : Except SenderError Unit}
    {pause : List Event} {paused : Sender} {at_ : Stage}
    (h : Pauses paused delay at_ hold pause result) :
    ∀ event ∈ sender.refusedEvent :: pause, Setback sender event := by
  intro event hevent
  rcases List.mem_cons.mp hevent with rfl | hmem
  · exact .inl rfl
  · exact .inr (h.isPause event hmem)

/-- The attempts for a datagram leave setbacks, and then the datagram if it went out. -/
theorem Sends.log_eq {delay : Binary64} {retries : Nat}
    {result : Except SenderError (Option Int)}
    (h : Sends hold delay retries sender stage log result final) :
    ∃ setbacks, log = setbacks ++ sender.sentLog result ∧
      ∀ event ∈ setbacks, Setback sender event := by
  induction h with
  | delivered => exact ⟨[], rfl, by simp⟩
  | exhausted => exact ⟨[_], rfl, by simp [Setback]⟩
  | abandoned => exact ⟨[_], rfl, by simp [Setback]⟩
  | notPaused _ _ hpause =>
      exact ⟨_, (List.append_nil _).symm, setback_refused_pause hpause⟩
  | abandonedInPause _ _ hpause _ =>
      exact ⟨_, (List.append_nil _).symm, setback_refused_pause hpause⟩
  | retried _ _ hpause _ _ ih =>
      obtain ⟨setbacks, rfl, hsetbacks⟩ := ih
      refine ⟨_, (List.append_assoc _ _ _).symm, ?_⟩
      intro event hevent
      rcases List.mem_append.mp hevent with hfirst | hrest
      · exact setback_refused_pause hpause event hfirst
      · exact hsetbacks event hrest

theorem texts_sentLog (sender : Sender) (result : Except SenderError (Option Int)) :
    Log.texts (sender.sentLog result) = [] := by
  unfold sentLog
  split <;> rfl

theorem Setback.text? {event : Event} (h : Setback sender event) : event.text? = none := by
  rcases h with rfl | hpause
  · rfl
  · obtain ⟨seconds, rfl | rfl⟩ := Event.eq_of_isPause hpause
    · rfl
    · rfl

theorem Setback.isSent {event : Event} (h : Setback sender event) : event.isSent = false := by
  rcases h with rfl | hpause
  · rfl
  · obtain ⟨seconds, rfl | rfl⟩ := Event.eq_of_isPause hpause
    · rfl
    · rfl

theorem Setback.bySending {event : Event} (h : Setback sender event) :
    event.BySending sender.destination := by
  rcases h with rfl | hpause
  · exact ⟨rfl, rfl⟩
  · obtain ⟨seconds, rfl | rfl⟩ := Event.eq_of_isPause hpause
    · trivial
    · trivial

theorem Sends.texts_eq {delay : Binary64} {retries : Nat}
    {result : Except SenderError (Option Int)}
    (h : Sends hold delay retries sender stage log result final) : Log.texts log = [] := by
  obtain ⟨setbacks, rfl, hsetbacks⟩ := h.log_eq
  rw [Log.texts_append, texts_sentLog, List.append_nil, Log.texts, List.filterMap_eq_nil_iff]
  exact fun event hevent => (hsetbacks event hevent).text?

theorem Sends.sentCount_eq {delay : Binary64} {retries : Nat}
    {result : Except SenderError (Option Int)}
    (h : Sends hold delay retries sender stage log result final) :
    Log.sentCount log = Log.sentCount (sender.sentLog result) := by
  obtain ⟨setbacks, rfl, hsetbacks⟩ := h.log_eq
  have hnone : Log.sentCount setbacks = 0 := by
    rw [Log.sentCount, List.countP_eq_zero]
    intro event hevent
    rw [(hsetbacks event hevent).isSent]
    simp
  rw [Log.sentCount_append, hnone, Nat.zero_add]

theorem Sends.bySending {delay : Binary64} {retries : Nat}
    {result : Except SenderError (Option Int)}
    (h : Sends hold delay retries sender stage log result final) :
    ∀ event ∈ log, event.BySending sender.destination := by
  obtain ⟨setbacks, rfl, hsetbacks⟩ := h.log_eq
  intro event hevent
  rcases List.mem_append.mp hevent with hsetback | hsent
  · exact (hsetbacks event hsetback).bySending
  · unfold sentLog at hsent
    split at hsent
    · rw [List.mem_singleton.mp hsent]
      exact ⟨rfl, rfl⟩
    · cases hsent

/-- A datagram is given up without an error only when a stop has been requested. -/
theorem Sends.stop_of_none {delay : Binary64} {retries : Nat}
    (h : Sends hold delay retries sender stage log (.ok none) final) :
    (stage.after log).stopRequested = true := by
  generalize hresult : (Except.ok none : Except SenderError (Option Int)) = result at h
  induction h with
  | delivered => cases hresult
  | exhausted => cases hresult
  | abandoned _ hstop => exact hstop
  | notPaused => cases hresult
  | abandonedInPause _ _ _ hstop => exact hstop
  | retried _ _ _ _ _ ih =>
      rw [Stage.after_append]
      exact ih hresult

theorem Sends.error_cases {delay : Binary64} {retries : Nat} {error : SenderError}
    (h : Sends hold delay retries sender stage log (.error error) final) :
    (∃ fault, error = .notSent fault) ∨ error.isReported = false := by
  generalize hresult : (Except.error error : Except SenderError (Option Int)) = result at h
  induction h with
  | delivered => cases hresult
  | exhausted => cases hresult; exact .inl ⟨_, rfl⟩
  | abandoned => cases hresult
  | notPaused _ _ hpause => cases hresult; exact .inr hpause.not_isReported
  | abandonedInPause => cases hresult
  | retried _ _ _ _ _ ih => exact ih hresult

/-- A refused attempt and the pause behind it count as one more failure. -/
theorem failures_refused_pause {delay : Binary64} {result : Except SenderError Unit}
    {pause : List Event} {paused : Sender} {at_ : Stage}
    (h : Pauses paused delay at_ hold pause result) (failures : Nat) :
    (sender.refusedEvent :: pause).foldl Event.failuresAfter failures = failures + 1 :=
  Log.failures_of_isPause h.isPause (failures + 1)

/-- The error of a refused datagram comes after one attempt more than there are retries. -/
theorem Sends.failures_of_notSent {delay : Binary64} {retries failures : Nat} {fault : Fault}
    (h : Sends hold delay retries sender stage log (.error (.notSent fault)) final) :
    log.foldl Event.failuresAfter failures = failures + (retries + 1) := by
  generalize hresult : (Except.error (.notSent fault) : Except SenderError (Option Int)) = result
    at h
  induction h generalizing failures with
  | delivered => cases hresult
  | exhausted => rfl
  | abandoned => cases hresult
  | notPaused _ _ hpause =>
      cases hresult
      cases hpause.not_isReported
  | abandonedInPause => cases hresult
  | retried _ _ hpause _ _ ih =>
      rw [List.foldl_append, failures_refused_pause hpause, ih hresult]
      omega

/-- Unless its attempts are used up, a datagram has failed no more often than there are retries. -/
theorem Sends.failures_le {delay : Binary64} {retries : Nat}
    {result : Except SenderError (Option Int)}
    (h : Sends hold delay retries sender stage log result final)
    (hleft : ∀ fault, result ≠ .error (.notSent fault)) (failures : Nat) :
    log.foldl Event.failuresAfter failures ≤ failures + retries := by
  induction h generalizing failures with
  | delivered => exact Nat.zero_le _
  | exhausted => exact absurd rfl (hleft _)
  | abandoned =>
      show failures + 1 ≤ _
      omega
  | notPaused _ _ hpause =>
      rw [failures_refused_pause hpause]
      omega
  | abandonedInPause _ _ hpause _ =>
      rw [failures_refused_pause hpause]
      omega
  | retried _ _ hpause _ _ ih =>
      rw [List.foldl_append, failures_refused_pause hpause]
      have hle := ih hleft (failures + 1)
      omega

theorem Sends.failures_of_some {delay : Binary64} {retries failures : Nat} {bytes : Int}
    (h : Sends hold delay retries sender stage log (.ok (some bytes)) final) :
    log.foldl Event.failuresAfter failures = 0 := by
  obtain ⟨setbacks, rfl, -⟩ := h.log_eq
  rw [List.foldl_append]
  rfl

/-- The error of a refused datagram carries the fault of the last attempt. -/
theorem Sends.last_refused {delay : Binary64} {retries : Nat} {fault : Fault}
    (h : Sends hold delay retries sender stage log (.error (.notSent fault)) final) :
    ∃ earlier, log = earlier ++ [sender.refusedEvent] ∧
      (stage.after earlier).outcome = .error fault := by
  generalize hresult : (Except.error (.notSent fault) : Except SenderError (Option Int)) = result
    at h
  induction h with
  | delivered => cases hresult
  | exhausted hout => cases hresult; exact ⟨[], rfl, hout⟩
  | abandoned => cases hresult
  | notPaused _ _ hpause =>
      cases hresult
      cases hpause.not_isReported
  | abandonedInPause => cases hresult
  | retried _ _ _ _ _ ih =>
      obtain ⟨earlier, rfl, hout⟩ := ih hresult
      refine ⟨_, (List.append_assoc _ _ _).symm, ?_⟩
      rw [Stage.after_append]
      exact hout

/-! ## A turn

A turn whose datagram goes out leaves the attempts, the progress line and the pause. -/

section Turn

variable {remaining : Nat} {delay : Binary64} {retries : Nat} {bytes : Int} {sent : Sender}
  {at_ : Stage} {pause : List Event} {pausing : Except SenderError Bool}

theorem turn_sentCount
    (hsend : Sends hold delay retries sender stage log (.ok (some bytes)) sent)
    (hsleep : Sleeps (sent.countSent bytes) sent.config.interval at_ pause pausing) :
    Log.sentCount (log ++ [sent.progressEvent remaining] ++ pause) = 1 := by
  rw [Log.sentCount_append, Log.sentCount_append, hsend.sentCount_eq,
    Log.sentCount_of_isPause hsleep.isPause]
  rfl

theorem turn_texts
    (hsend : Sends hold delay retries sender stage log (.ok (some bytes)) sent)
    (hsleep : Sleeps (sent.countSent bytes) sent.config.interval at_ pause pausing) :
    Log.texts (log ++ [sent.progressEvent remaining] ++ pause) =
      [progressText sender.config.count (sender.config.count - (remaining + 1))] := by
  rw [Log.texts_append, Log.texts_append, hsend.texts_eq, Log.texts_of_isPause hsleep.isPause,
    progressEvent, hsend.keeps.config]
  rfl

theorem turn_failures
    (hsend : Sends hold delay retries sender stage log (.ok (some bytes)) sent)
    (hsleep : Sleeps (sent.countSent bytes) sent.config.interval at_ pause pausing) :
    Log.failuresInARow (log ++ [sent.progressEvent remaining] ++ pause) = 0 := by
  rw [Log.failuresInARow, List.foldl_append, List.foldl_append, hsend.failures_of_some,
    Log.failures_of_isPause hsleep.isPause]
  rfl

theorem turn_bySending
    (hsend : Sends hold delay retries sender stage log (.ok (some bytes)) sent)
    (hsleep : Sleeps (sent.countSent bytes) sent.config.interval at_ pause pausing) :
    ∀ event ∈ log ++ [sent.progressEvent remaining] ++ pause,
      event.BySending sender.destination := by
  intro event hevent
  rcases List.mem_append.mp hevent with hfirst | hpause
  · rcases List.mem_append.mp hfirst with hlog | hline
    · exact hsend.bySending event hlog
    · rw [List.mem_singleton.mp hline]
      trivial
  · obtain ⟨seconds, rfl | rfl⟩ := Event.eq_of_isPause (hsleep.isPause event hpause)
    · trivial
    · trivial

theorem turn_keeps
    (hsend : Sends hold delay retries sender stage log (.ok (some bytes)) sent) :
    Keeps 1 sender (sent.countSent bytes) := by
  have h := hsend.keeps.trans (keeps_countSent sent bytes)
  rwa [Nat.zero_add] at h

end Turn

/-! ## The datagrams of a run -/

theorem SendsAll.keeps {remaining : Nat} {result : Except SenderError Unit}
    (h : SendsAll hold remaining sender stage log result final) :
    Keeps (Log.sentCount log) sender final := by
  induction h with
  | finished => exact Keeps.refl _
  | stopped => exact Keeps.refl _
  | failed _ hsend => rw [hsend.sentCount_eq]; exact hsend.keeps
  | abandoned _ hsend => rw [hsend.sentCount_eq]; exact hsend.keeps
  | notPaused _ hsend hsleep => rw [turn_sentCount hsend hsleep]; exact turn_keeps hsend
  | stoppedInPause _ hsend hsleep => rw [turn_sentCount hsend hsleep]; exact turn_keeps hsend
  | next _ hsend hsleep _ ih =>
      rw [Log.sentCount_append, turn_sentCount hsend hsleep]
      exact (turn_keeps hsend).trans ih

theorem SendsAll.sentCount_le {remaining : Nat} {result : Except SenderError Unit}
    (h : SendsAll hold remaining sender stage log result final) :
    Log.sentCount log ≤ remaining := by
  induction h with
  | finished => exact Nat.le_refl _
  | stopped => exact Nat.zero_le _
  | failed _ hsend => rw [hsend.sentCount_eq]; exact Nat.zero_le _
  | abandoned _ hsend => rw [hsend.sentCount_eq]; exact Nat.zero_le _
  | notPaused _ hsend hsleep => rw [turn_sentCount hsend hsleep]; omega
  | stoppedInPause _ hsend hsleep => rw [turn_sentCount hsend hsleep]; omega
  | next _ hsend hsleep _ ih =>
      rw [Log.sentCount_append, turn_sentCount hsend hsleep]
      omega

/-- What is written while datagrams are sent is the progress line of each that goes out. -/
theorem SendsAll.texts_eq {remaining : Nat} {result : Except SenderError Unit}
    (h : SendsAll hold remaining sender stage log result final)
    (hle : remaining ≤ sender.config.count) :
    Log.texts log = (List.range' (sender.config.count - remaining) (Log.sentCount log)).map
      (progressText sender.config.count) := by
  induction h with
  | finished => rfl
  | stopped => rfl
  | failed _ hsend => rw [hsend.texts_eq, hsend.sentCount_eq]; rfl
  | abandoned _ hsend => rw [hsend.texts_eq, hsend.sentCount_eq]; rfl
  | notPaused _ hsend hsleep => rw [turn_texts hsend hsleep, turn_sentCount hsend hsleep]; rfl
  | stoppedInPause _ hsend hsleep => rw [turn_texts hsend hsleep, turn_sentCount hsend hsleep]; rfl
  | @next remaining sender _ _ _ _ _ _ _ _ _ hsend hsleep _ ih =>
      have hkeeps := (turn_keeps hsend).config
      rw [hkeeps] at ih
      -- the positions of the later datagrams start one further on
      have hnext : sender.config.count - remaining =
          sender.config.count - (remaining + 1) + 1 := by omega
      rw [Log.texts_append, Log.sentCount_append, turn_texts hsend hsleep,
        turn_sentCount hsend hsleep, ih (by omega), hnext, Nat.add_comm 1, List.range'_succ,
        List.map_cons]
      rfl

/-- A loop that ends without an error has sent all its datagrams or has seen a stop request. -/
theorem SendsAll.stop_of_ok {remaining : Nat}
    (h : SendsAll hold remaining sender stage log (.ok ()) final)
    (hlt : Log.sentCount log < remaining) : (stage.after log).stopRequested = true := by
  generalize hresult : (Except.ok () : Except SenderError Unit) = result at h
  induction h with
  | finished => exact absurd hlt (Nat.not_lt_zero _)
  | stopped hstop => exact hstop
  | failed => cases hresult
  | abandoned _ hsend => exact hsend.stop_of_none
  | notPaused => cases hresult
  | stoppedInPause _ _ hsleep =>
      rw [Stage.after_append]
      exact hsleep.stop_eq
  | next _ hsend hsleep _ ih =>
      rw [Log.sentCount_append, turn_sentCount hsend hsleep] at hlt
      rw [Stage.after_append]
      exact ih (by omega) hresult

theorem SendsAll.bySending {remaining : Nat} {result : Except SenderError Unit}
    (h : SendsAll hold remaining sender stage log result final) :
    ∀ event ∈ log, event.BySending sender.destination := by
  induction h with
  | finished => simp
  | stopped => simp
  | failed _ hsend => exact hsend.bySending
  | abandoned _ hsend => exact hsend.bySending
  | notPaused _ hsend hsleep => exact turn_bySending hsend hsleep
  | stoppedInPause _ hsend hsleep => exact turn_bySending hsend hsleep
  | next _ hsend hsleep _ ih =>
      intro event hevent
      rcases List.mem_append.mp hevent with hturn | hrest
      · exact turn_bySending hsend hsleep event hturn
      · have := ih event hrest
        rwa [(turn_keeps hsend).destination] at this

theorem SendsAll.error_cases {remaining : Nat} {error : SenderError}
    (h : SendsAll hold remaining sender stage log (.error error) final) :
    (∃ fault, error = .notSent fault) ∨ error.isReported = false := by
  generalize hresult : (Except.error error : Except SenderError Unit) = result at h
  induction h with
  | finished => cases hresult
  | stopped => cases hresult
  | failed _ hsend => cases hresult; exact hsend.error_cases
  | abandoned => cases hresult
  | notPaused _ _ hsleep => cases hresult; exact .inr hsleep.not_isReported
  | stoppedInPause => cases hresult
  | next _ _ _ _ ih => exact ih hresult

/-- What is known of a run that ends because a datagram was refused: not all datagrams went out,
the attempts since the last one that did have failed as often as the policy allows, and the fault
is that of the last attempt. -/
theorem SendsAll.of_notSent {remaining : Nat} {fault : Fault}
    (h : SendsAll hold remaining sender stage log (.error (.notSent fault)) final) :
    Log.sentCount log < remaining ∧ Log.failuresInARow log = sender.policy.limit + 1 ∧
      ∃ earlier, log = earlier ++ [sender.refusedEvent] ∧
        (stage.after earlier).outcome = .error fault := by
  generalize hresult : (Except.error (.notSent fault) : Except SenderError Unit) = result at h
  induction h with
  | finished => cases hresult
  | stopped => cases hresult
  | failed _ hsend =>
      cases hresult
      refine ⟨?_, ?_, hsend.last_refused⟩
      · rw [hsend.sentCount_eq]
        exact Nat.succ_pos _
      · rw [Log.failuresInARow, hsend.failures_of_notSent, Nat.zero_add]
  | abandoned => cases hresult
  | notPaused _ _ hsleep =>
      cases hresult
      cases hsleep.not_isReported
  | stoppedInPause => cases hresult
  | @next remaining sender sent _ _ log pause _ _ _ _ hsend hsleep _ ih =>
      obtain ⟨hsent, hfailures, earlier, rfl, hout⟩ := ih hresult
      have hkeeps := turn_keeps hsend
      refine ⟨?_, ?_, log ++ [sent.progressEvent remaining] ++ pause ++ earlier, ?_, ?_⟩
      · rw [Log.sentCount_append, turn_sentCount hsend hsleep]
        omega
      · rw [Log.failuresInARow_append, turn_failures hsend hsleep, ← hkeeps.policy]
        exact hfailures
      · rw [refusedEvent, hkeeps.destination, refusedEvent]
        simp only [List.append_assoc]
      · rw [Stage.after_append]
        exact hout

/-- Unless a run ends because a datagram was refused, it has not used up the attempts for its last
datagram. -/
theorem SendsAll.failures_le {remaining : Nat} {result : Except SenderError Unit}
    (h : SendsAll hold remaining sender stage log result final)
    (hleft : ∀ fault, result ≠ .error (.notSent fault)) :
    Log.failuresInARow log ≤ sender.policy.limit := by
  induction h with
  | finished => exact Nat.zero_le _
  | stopped => exact Nat.zero_le _
  | @failed _ _ _ _ _ error _ hsend =>
      have hle := hsend.failures_le (fun fault heq => hleft fault (by cases heq; rfl)) 0
      rwa [Nat.zero_add] at hle
  | abandoned _ hsend =>
      have hle := hsend.failures_le (by simp) 0
      rwa [Nat.zero_add] at hle
  | notPaused _ hsend hsleep =>
      rw [turn_failures hsend hsleep]
      exact Nat.zero_le _
  | stoppedInPause _ hsend hsleep =>
      rw [turn_failures hsend hsleep]
      exact Nat.zero_le _
  | next _ hsend hsleep _ ih =>
      rw [Log.failuresInARow_append, turn_failures hsend hsleep]
      have := ih hleft
      rwa [(turn_keeps hsend).policy] at this

end Sender

end Heartbeat
