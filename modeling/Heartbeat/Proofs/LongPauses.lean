import Heartbeat.Proofs.FirstRun

/-!
# Pauses that are too long

A wait that is too long for its surroundings is refused. The log of a sender tells when that
happens: the pause that is due at its end is too long, and no stop request has made it unnecessary
(`Runs.waitTooLong_iff`). Which pause is due depends on the last move of the log. After a datagram
that went out it is the interval, after a refused attempt the delay before its retry.

Apart from this, and from a datagram that is refused too often, a run of a sender that is not
closed has no error (`Runs.error_of_open`).
-/

namespace Heartbeat

namespace Event

/-- Is the event a move of the sending loop, that is an attempt or a pause? -/
def isMove (event : Event) : Bool := event.isAttempt || event.isPause

end Event

namespace Log

/-- The last attempt or pause of a log. -/
def lastMove? (log : List Event) : Option Event := (log.filter Event.isMove).getLast?

theorem lastMove?_append (first rest : List Event) :
    lastMove? (first ++ rest) = (lastMove? rest).or (lastMove? first) := by
  rw [lastMove?, List.filter_append, List.getLast?_append]
  rfl

theorem lastMove?_append_of_ne_none {first rest : List Event} (h : lastMove? rest ≠ none) :
    lastMove? (first ++ rest) = lastMove? rest := by
  rw [lastMove?_append]
  exact Option.or_of_isSome (Option.isSome_iff_ne_none.mpr h)

theorem lastMove?_cons_ne_none {event : Event} (hmove : event.isMove = true)
    (log : List Event) : lastMove? (event :: log) ≠ none := by
  rw [lastMove?, List.filter_cons_of_pos hmove]
  simp

theorem mem_of_lastMove? {log : List Event} {event : Event} (h : lastMove? log = some event) :
    event ∈ log :=
  (List.mem_filter.mp (List.mem_of_getLast? h)).1

/-- A log without a move leaves the failures as they are. -/
theorem failures_of_lastMove?_eq_none {log : List Event} (h : lastMove? log = none)
    (failures : Nat) : log.foldl Event.failuresAfter failures = failures := by
  induction log with
  | nil => rfl
  | cons event log ih =>
      have hrest : lastMove? log = none := by
        have happend := lastMove?_append [event] log
        rw [List.singleton_append, h] at happend
        exact (Option.or_eq_none_iff.mp happend.symm).1
      cases event with
      | sent | refused => exact absurd h (lastMove?_cons_ne_none rfl log)
      | _ => exact ih hrest

theorem lastMove?_outward (log : List Event) :
    lastMove? (log.filter Event.isOutward) = lastMove? log := by
  rw [lastMove?, List.filter_filter]
  congr 2
  funext event
  cases event <;> rfl

end Log

namespace Script

/-- Is a pause of this time refused? Only one that is for some time is waited for at all. -/
def IsTooLong (script : Script) (delay : Binary64) : Prop :=
  0 < delay ∧ script.waitLimit ≤ delay

end Script

@[simp] theorem Stage.isTooLong_after (stage : Stage) (log : List Event) (delay : Binary64) :
    (stage.after log).script.IsTooLong delay ↔ stage.script.IsTooLong delay := by
  rw [script_after, Script.IsTooLong, Script.waitLimit_after, ← Script.IsTooLong]

namespace Sender

/-- The pause that is due at the end of a log, if one is. A datagram that has used up its attempts
is not tried again, and after a pause none is due. -/
def pauseDue? (config : Config) (policy : RetryPolicy) (log : List Event) : Option Binary64 :=
  match Log.lastMove? log with
  | some (.sent ..) => some config.interval
  | some (.refused ..) => (policy.delays policy.limit)[Log.failuresInARow log - 1]?
  | _ => none

theorem pauseDue?_append_of_none (config : Config) (policy : RetryPolicy) {first rest : List Event}
    (h : Log.lastMove? rest = none) :
    pauseDue? config policy (first ++ rest) = pauseDue? config policy first := by
  rw [pauseDue?, pauseDue?, Log.lastMove?_append, h, Option.none_or, Log.failuresInARow_append,
    Log.failures_of_lastMove?_eq_none h]

theorem pauseDue?_append_of_ne_none (config : Config) (policy : RetryPolicy)
    {first rest : List Event} (h : Log.lastMove? rest ≠ none)
    (hfailures : Log.failuresInARow first = 0) :
    pauseDue? config policy (first ++ rest) = pauseDue? config policy rest := by
  rw [pauseDue?, pauseDue?, Log.lastMove?_append_of_ne_none h, Log.failuresInARow_append,
    hfailures, ← Log.failuresInARow]

variable {sender final : Sender} {stage : Stage} {log : List Event}

/-! ## One pause -/

theorem waitError?_eq_iff (sender : Sender) {script : Script} {delay : Binary64} :
    sender.waitError? script delay = some .waitTooLong ↔ script.IsTooLong delay := by
  unfold waitError?
  constructor
  · intro h
    split at h
    · next hpos =>
        split at h
        · next hlong => exact ⟨hpos, hlong⟩
        · split at h
          · cases h
          · cases h
    · cases h
  · intro hlong
    rw [if_pos hlong.1, if_pos hlong.2]

theorem Sleeps.waitTooLong_iff {delay : Binary64} {result : Except SenderError Bool}
    (h : Sleeps sender delay stage log result) :
    result = .error .waitTooLong ↔
      (stage.after log).stopRequested = false ∧ log = [] ∧ stage.script.IsTooLong delay := by
  rw [← waitError?_eq_iff sender]
  cases h with
  | pending hstop => simp [hstop]
  | failed hgo herror => simp [hgo, herror]
  | waited _ herror => simp [herror]

/-! A pause that fails leaves nothing, and of an open sender it can only be too long. -/

theorem Sleeps.log_of_error {delay : Binary64} {error : SenderError}
    (h : Sleeps sender delay stage log (.error error)) : log = [] := by
  cases h with
  | failed => rfl

theorem Sleeps.error_of_open {delay : Binary64} {error : SenderError}
    (h : Sleeps sender delay stage log (.error error)) (hopen : sender.closed = false) :
    error = .waitTooLong := by
  cases h with
  | failed _ herror =>
      unfold waitError? at herror
      split at herror
      · split at herror
        · cases herror; rfl
        · rw [if_neg (by simp [hopen])] at herror
          cases herror
      · cases herror

theorem Pauses.waitTooLong_iff {delay : Binary64} {result : Except SenderError Unit}
    (h : Pauses sender delay stage false log result) :
    result = .error .waitTooLong ↔
      (stage.after log).stopRequested = false ∧ log = [] ∧ stage.script.IsTooLong delay := by
  cases h with
  | failed hsleep => rw [← hsleep.waitTooLong_iff]; simp
  | slept hsleep => rw [← hsleep.waitTooLong_iff]; simp

theorem Pauses.log_of_error {hold : Bool} {delay : Binary64} {error : SenderError}
    (h : Pauses sender delay stage hold log (.error error)) : log = [] := by
  cases h with
  | failed hsleep => exact hsleep.log_of_error

theorem Pauses.error_of_open {hold : Bool} {delay : Binary64} {error : SenderError}
    (h : Pauses sender delay stage hold log (.error error)) (hopen : sender.closed = false) :
    error = .waitTooLong := by
  cases h with
  | failed hsleep => exact hsleep.error_of_open hopen

/-! ## The attempts for one datagram -/

theorem Sends.lastMove?_ne_none {hold : Bool} {delay : Binary64} {retries : Nat}
    {result : Except SenderError (Option Int)}
    (h : Sends hold delay retries sender stage log result final) : Log.lastMove? log ≠ none := by
  cases h with
  | delivered => exact Log.lastMove?_cons_ne_none rfl _
  | exhausted => exact Log.lastMove?_cons_ne_none rfl _
  | abandoned => exact Log.lastMove?_cons_ne_none rfl _
  | notPaused => exact Log.lastMove?_cons_ne_none rfl _
  | abandonedInPause => exact Log.lastMove?_cons_ne_none rfl _
  | retried => exact Log.lastMove?_cons_ne_none rfl _

/-- The attempts for a datagram end in this error exactly when the delay that belongs to the last
failure is too long. Of all its delays, those that are left come behind those of the failures so
far. -/
theorem Sends.waitTooLong_iff {delay : Binary64} {retries failures : Nat}
    {delays : List Binary64} {result : Except SenderError (Option Int)}
    (h : Sends false delay retries sender stage log result final)
    (hdelays : delays.drop failures =
      RetryPolicy.growing sender.policy.factor retries delay) :
    result = .error .waitTooLong ↔
      (stage.after log).stopRequested = false ∧ Log.lastMove? log = some sender.refusedEvent ∧
        ∃ due, delays[log.foldl Event.failuresAfter failures - 1]? = some due ∧
          stage.script.IsTooLong due := by
  induction h generalizing failures with
  | delivered => exact iff_of_false (by simp) fun h => by cases h.2.1
  | exhausted =>
      refine iff_of_false (by simp) fun ⟨_, _, due, hdue, _⟩ => ?_
      have hnone : delays[failures]? = none := by
        rw [← List.head?_drop, hdelays]
        rfl
      cases hnone.symm.trans hdue
  | abandoned _ hstop =>
      exact iff_of_false (by simp) fun h => by cases hstop.symm.trans h.1
  | @notPaused delay _ _ _ _ _ _ _ hgo hpause =>
      have hdue : delays[failures]? = some delay := by
        rw [← List.head?_drop, hdelays]
        rfl
      have hiff := hpause.waitTooLong_iff
      rw [failures_refused_pause hpause, Nat.add_sub_cancel, hdue]
      obtain rfl := hpause.log_of_error
      refine ⟨fun heq => ⟨hgo, rfl, delay, rfl, ?_⟩, fun ⟨_, _, due, hdue', hlong⟩ => ?_⟩
      · cases heq
        exact (hiff.mp rfl).2.2
      · cases hdue'
        cases hiff.mpr ⟨hgo, rfl, hlong⟩
        rfl
  | abandonedInPause _ _ _ hstop =>
      exact iff_of_false (by simp) fun h => by cases hstop.symm.trans h.1
  | @retried delay retries sender _ _ _ _ _ _ _ _ hpause _ hrest ih =>
      have hleft : delays.drop (failures + 1) =
          RetryPolicy.growing sender.policy.factor retries (delay * sender.policy.factor) := by
        rw [← List.tail_drop, hdelays]
        rfl
      rw [Stage.after_append, List.foldl_append, failures_refused_pause hpause,
        Log.lastMove?_append_of_ne_none hrest.lastMove?_ne_none]
      have htail := ih hleft
      simp only [Stage.isTooLong_after] at htail
      exact htail

theorem Sends.error_of_open {hold : Bool} {delay : Binary64} {retries : Nat}
    {error : SenderError} (h : Sends hold delay retries sender stage log (.error error) final)
    (hopen : sender.closed = false) : (∃ fault, error = .notSent fault) ∨ error = .waitTooLong := by
  generalize hresult : (Except.error error : Except SenderError (Option Int)) = result at h
  induction h with
  | delivered => cases hresult
  | exhausted => cases hresult; exact .inl ⟨_, rfl⟩
  | abandoned => cases hresult
  | notPaused _ _ hpause => cases hresult; exact .inr (hpause.error_of_open hopen)
  | abandonedInPause => cases hresult
  | retried _ _ _ _ _ ih => exact ih hopen hresult

/-! ## The datagrams of a run -/

theorem SendsAll.error_of_open {hold : Bool} {remaining : Nat} {error : SenderError}
    (h : SendsAll hold remaining sender stage log (.error error) final)
    (hopen : sender.closed = false) : (∃ fault, error = .notSent fault) ∨ error = .waitTooLong := by
  generalize hresult : (Except.error error : Except SenderError Unit) = result at h
  induction h with
  | finished => cases hresult
  | stopped => cases hresult
  | failed _ hsend => cases hresult; exact hsend.error_of_open hopen
  | abandoned => cases hresult
  | notPaused _ hsend hsleep =>
      cases hresult
      exact .inr (hsleep.error_of_open ((turn_keeps hsend).closed.trans hopen))
  | stoppedInPause => cases hresult
  | next _ hsend _ _ ih => exact ih ((turn_keeps hsend).closed.trans hopen) hresult

theorem pauseDue?_of_refused {config : Config} {policy : RetryPolicy}
    (h : Log.lastMove? log = some sender.refusedEvent) :
    pauseDue? config policy log =
      (policy.delays policy.limit)[Log.failuresInARow log - 1]? := by
  rw [pauseDue?, h]
  rfl

/-- A datagram that ends in an error has not gone out. -/
theorem Sends.lastMove?_of_pauseDue? {hold : Bool} {delay due : Binary64} {retries : Nat}
    {error : SenderError} {config : Config} {policy : RetryPolicy}
    (h : Sends hold delay retries sender stage log (.error error) final)
    (hdue : pauseDue? config policy log = some due) :
    Log.lastMove? log = some sender.refusedEvent := by
  obtain ⟨event, hevent⟩ := Option.ne_none_iff_exists'.mp h.lastMove?_ne_none
  obtain ⟨setbacks, heq, hsetbacks⟩ := h.log_eq
  have hmem : event ∈ setbacks ++ [] := heq ▸ Log.mem_of_lastMove? hevent
  rw [List.append_nil] at hmem
  rcases hsetbacks event hmem with rfl | hpause
  · exact hevent
  · rw [pauseDue?, hevent] at hdue
    obtain ⟨seconds, rfl | rfl⟩ := Event.eq_of_isPause hpause
    · cases hdue
    · cases hdue

theorem delays_limit (policy : RetryPolicy) :
    policy.delays policy.limit = RetryPolicy.growing policy.factor policy.limit policy.backoff := by
  rw [RetryPolicy.delays, Nat.min_self]

section Turn

variable {remaining retries : Nat} {delay : Binary64} {bytes : Int} {sent : Sender} {at_ : Stage}
  {pause : List Event} {pausing : Except SenderError Bool}

theorem Sends.lastMove?_of_some {hold : Bool}
    (h : Sends hold delay retries sender stage log (.ok (some bytes)) final) :
    Log.lastMove? log = some (sender.sentEvent bytes) := by
  obtain ⟨setbacks, rfl, -⟩ := h.log_eq
  rw [Log.lastMove?_append]
  rfl

/-- The pause between datagrams is due until it has been made. -/
theorem turn_pauseDue? (config : Config) (policy : RetryPolicy)
    (hsend : Sends false delay retries sender stage log (.ok (some bytes)) sent)
    (hpause : ∀ event ∈ pause, event.isPause = true) :
    pauseDue? config policy (log ++ [sent.progressEvent remaining] ++ pause) =
      if pause = [] then some config.interval else none := by
  split
  · next hnil =>
      rw [hnil, List.append_nil, pauseDue?_append_of_none _ _ rfl, pauseDue?,
        hsend.lastMove?_of_some]
      rfl
  · next hcons =>
      have hlast : Log.lastMove? pause ≠ none := by
        obtain ⟨event, rest, rfl⟩ := List.exists_cons_of_ne_nil hcons
        refine Log.lastMove?_cons_ne_none ?_ rest
        rw [Event.isMove, hpause event List.mem_cons_self, Bool.or_true]
      obtain ⟨event, hevent⟩ := Option.ne_none_iff_exists'.mp hlast
      rw [pauseDue?, Log.lastMove?_append_of_ne_none hlast, hevent]
      have hmem := Log.mem_of_lastMove? hevent
      obtain ⟨seconds, rfl | rfl⟩ := Event.eq_of_isPause (hpause event hmem)
      · rfl
      · rfl

theorem turn_waitTooLong_iff
    (hsend : Sends false delay retries sender stage log (.ok (some bytes)) sent)
    (hsleep : Sleeps (sent.countSent bytes) sent.config.interval
      (stage.after (log ++ [sent.progressEvent remaining])) pause pausing) :
    pausing = .error .waitTooLong ↔
      (stage.after (log ++ [sent.progressEvent remaining] ++ pause)).stopRequested = false ∧
        ∃ due, pauseDue? sender.config sender.policy
            (log ++ [sent.progressEvent remaining] ++ pause) = some due ∧
          stage.script.IsTooLong due := by
  rw [hsleep.waitTooLong_iff, Stage.isTooLong_after, ← Stage.after_append,
    turn_pauseDue? _ _ hsend hsleep.isPause, ← hsend.keeps.config]
  split
  · next hnil => simp [hnil]
  · next hcons => simp [hcons]

end Turn

/-- The loop of a run fails because a pause is too long exactly if such a pause is due at its end,
and no stop request has been met. -/
theorem SendsAll.waitTooLong_iff {remaining : Nat} {result : Except SenderError Unit}
    (h : SendsAll false remaining sender stage log result final) :
    result = .error .waitTooLong ↔ (stage.after log).stopRequested = false ∧
      ∃ due, pauseDue? sender.config sender.policy log = some due ∧ stage.script.IsTooLong due := by
  induction h with
  | finished => exact iff_of_false (by simp) fun ⟨_, _, hdue, _⟩ => by cases hdue
  | stopped => exact iff_of_false (by simp) fun ⟨_, _, hdue, _⟩ => by cases hdue
  | @failed _ sender final stage log error _ hsend =>
      have hdelays : (sender.policy.delays sender.policy.limit).drop 0 = _ :=
        delays_limit sender.policy
      have hiff := hsend.waitTooLong_iff hdelays
      constructor
      · intro heq
        cases heq
        obtain ⟨hgo, hlast, hdue⟩ := hiff.mp rfl
        rw [pauseDue?_of_refused hlast]
        exact ⟨hgo, hdue⟩
      · rintro ⟨hgo, due, hdue, hlong⟩
        have hlast := hsend.lastMove?_of_pauseDue? hdue
        rw [pauseDue?_of_refused hlast] at hdue
        cases hiff.mpr ⟨hgo, hlast, due, hdue, hlong⟩
        rfl
  | abandoned _ hsend =>
      exact iff_of_false (by simp) fun h => by cases hsend.stop_of_none.symm.trans h.1
  | notPaused _ hsend hsleep => rw [← turn_waitTooLong_iff hsend hsleep]; simp
  | stoppedInPause _ hsend hsleep => rw [← turn_waitTooLong_iff hsend hsleep]; simp
  | @next remaining sender sent _ stage log pause rest _ _ _ hsend hsleep _ ih =>
      rw [(turn_keeps hsend).config, (turn_keeps hsend).policy] at ih
      simp only [Stage.isTooLong_after] at ih
      rw [ih, ← Stage.after_append]
      by_cases hlast : Log.lastMove? rest = none
      · -- the next datagram has not been begun
        have hturn := mt (turn_waitTooLong_iff hsend hsleep).mpr (by simp)
        rw [pauseDue?_append_of_none _ _ hlast]
        refine iff_of_false (fun ⟨_, due, hdue, _⟩ => ?_) fun ⟨hgo, hdue⟩ => hturn ⟨?_, hdue⟩
        · rw [pauseDue?, hlast] at hdue
          cases hdue
        · rw [Stage.after_append, Stage.stopRequested_after] at hgo
          exact (Bool.or_eq_false_iff.mp hgo).1
      · rw [pauseDue?_append_of_ne_none _ _ hlast (turn_failures hsend hsleep)]

/-! ## The run -/

section Run

variable {result : Except SenderError Nat}

theorem Runs.waitTooLong_iff (h : Runs false sender stage log result final) :
    result = .error .waitTooLong ↔ (stage.after log).stopRequested = false ∧
      ∃ due, pauseDue? sender.config sender.policy log = some due ∧ stage.script.IsTooLong due := by
  obtain ⟨body, loopResult, _, ending, hsend, rfl, hending, -, herror⟩ := h.exists_body
  have hstop : (stage.after (body ++ ending)).stopRequested =
      (stage.after body).stopRequested := by
    rw [Stage.after_append, Stage.stopRequested_after]
    rcases hending with rfl | rfl
    · exact Bool.or_false _
    · exact Bool.or_false _
  have hlast : Log.lastMove? ending = none := by
    rcases hending with rfl | rfl
    · rfl
    · rfl
  rw [← herror, hstop, pauseDue?_append_of_none _ _ hlast]
  exact hsend.waitTooLong_iff

theorem Runs.error_of_open {hold : Bool} {error : SenderError}
    (h : Runs hold sender stage log (.error error) final) (hopen : sender.closed = false) :
    (∃ fault, error = .notSent fault) ∨ error = .waitTooLong := by
  cases h with
  | failed hsend => exact hsend.error_of_open hopen

end Run

end Sender

end Heartbeat
