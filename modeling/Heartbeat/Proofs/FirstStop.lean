import Heartbeat.Proofs.RunLog

/-!
# Where the first stop acts

A stop request arrives during an event of the log, and the first one cuts the run short there.
Among the attempts for a datagram and in a pause it lies in the last event (`Sends.stopsLast`).
Behind it the loop leaves nothing but the progress line of a datagram that has just gone out
(`SendsAll.firstStop`).
-/

namespace Heartbeat

namespace Script

/-- The event during which the first stop request arrives, and the events behind it. -/
def firstStop? : Script → List Event → Option (Event × List Event)
  | _, [] => none
  | script, event :: log =>
    if 0 < script.stopsDuring event then some (event, log) else (script.next event).firstStop? log

theorem firstStop?_append (script : Script) (first rest : List Event) :
    script.firstStop? (first ++ rest) =
      match script.firstStop? first with
      | some (event, after) => some (event, after ++ rest)
      | none => (script.after first).firstStop? rest := by
  induction first generalizing script with
  | nil => rfl
  | cons event first ih =>
      rw [List.cons_append, firstStop?, firstStop?]
      split
      · rfl
      · exact ih (script.next event)

theorem eq_append_of_firstStop? {script : Script} {log after : List Event} {event : Event}
    (h : script.firstStop? log = some (event, after)) :
    ∃ before, log = before ++ event :: after := by
  induction log generalizing script with
  | nil => cases h
  | cons first log ih =>
      rw [firstStop?] at h
      split at h
      · cases h
        exact ⟨[], rfl⟩
      · obtain ⟨before, rfl⟩ := ih h
        exact ⟨first :: before, rfl⟩

theorem firstStop?_eq_none {script : Script} {log : List Event} :
    script.firstStop? log = none ↔ script.stopsWithin log = false := by
  induction log generalizing script with
  | nil => simp [firstStop?, stopsWithin]
  | cons event log ih =>
      rw [firstStop?, stopsWithin, Bool.or_eq_false_iff, ← ih]
      split
      · next hpos => simp [hpos]
      · next hzero => simp [hzero]

end Script

/-- No stop arrives during a log that leads to a stage where none has been requested. -/
theorem Stage.firstStop?_of_go {stage : Stage} {log : List Event}
    (h : (stage.after log).stopRequested = false) : stage.script.firstStop? log = none := by
  rw [Stage.stopRequested_after, Bool.or_eq_false_iff] at h
  exact Script.firstStop?_eq_none.mpr h.2

namespace Sender

variable {hold : Bool} {sender final : Sender} {stage : Stage} {log : List Event}

/-- What is known of the first stop within attempts for a datagram or a pause: nothing comes behind
it, and it lies in a datagram that goes out just when that is the answer. -/
def StopsLast (stage : Stage) (log : List Event) (goesOut : Bool) : Prop :=
  ∀ event after, stage.script.firstStop? log = some (event, after) →
    after = [] ∧ event.isSent = goesOut

theorem Sleeps.length_le {delay : Binary64} {result : Except SenderError Bool}
    (h : Sleeps sender delay stage log result) : log.length ≤ 1 := by
  cases h with
  | pending => exact Nat.zero_le _
  | failed => exact Nat.zero_le _
  | waited =>
      unfold waitLog
      split
      · exact Nat.le_refl _
      · exact Nat.zero_le _

theorem stopsLast_of_isPause (hpause : ∀ event ∈ log, event.isPause = true)
    (hle : log.length ≤ 1) : StopsLast stage log false := by
  intro event after hstop
  obtain ⟨before, rfl⟩ := Script.eq_append_of_firstStop? hstop
  have hevent := hpause event (by simp)
  rw [List.length_append, List.length_cons] at hle
  refine ⟨List.eq_nil_of_length_eq_zero (by omega), ?_⟩
  obtain ⟨seconds, rfl | rfl⟩ := Event.eq_of_isPause hevent
  · rfl
  · rfl

theorem Sleeps.stopsLast {delay : Binary64} {result : Except SenderError Bool} {at_ : Stage}
    (h : Sleeps sender delay stage log result) : StopsLast at_ log false :=
  stopsLast_of_isPause h.isPause h.length_le

theorem Pauses.stopsLast {delay : Binary64} {result : Except SenderError Unit} {at_ : Stage}
    (h : Pauses sender delay stage hold log result) : StopsLast at_ log false := by
  cases h with
  | heldBack => exact stopsLast_of_isPause (by simp [Event.isPause]) (Nat.le_refl _)
  | failed hsleep => exact hsleep.stopsLast
  | slept hsleep => exact hsleep.stopsLast

/-- Where no stop arrives in a first part, the first stop is that of the rest. -/
theorem StopsLast.append {first rest : List Event} {goesOut : Bool}
    (h : StopsLast (stage.after first) rest goesOut)
    (hgo : (stage.after first).stopRequested = false) :
    StopsLast stage (first ++ rest) goesOut := by
  intro event after hstop
  rw [Script.firstStop?_append, Stage.firstStop?_of_go hgo, ← Stage.script_after] at hstop
  exact h event after hstop

theorem stopsLast_singleton (event : Event) : StopsLast stage [event] event.isSent := by
  intro event' after hstop
  obtain ⟨before, hbefore⟩ := Script.eq_append_of_firstStop? hstop
  rcases before with _ | ⟨first, before⟩
  · cases hbefore
    exact ⟨rfl, rfl⟩
  · have hlength := congrArg List.length hbefore
    simp at hlength

/-- Does the answer say that the datagram went out? -/
def wentOut : Except SenderError (Option Int) → Bool
  | .ok (some _) => true
  | _ => false

theorem Sends.stopsLast {delay : Binary64} {retries : Nat}
    {result : Except SenderError (Option Int)}
    (h : Sends hold delay retries sender stage log result final) :
    StopsLast stage log (wentOut result) := by
  induction h with
  | delivered => exact stopsLast_singleton _
  | exhausted => exact stopsLast_singleton _
  | abandoned => exact stopsLast_singleton _
  | @notPaused _ _ sender _ _ _ _ _ hgo hpause =>
      exact @StopsLast.append _ [sender.refusedEvent] _ _ hpause.stopsLast hgo
  | @abandonedInPause _ _ sender _ _ _ _ hgo hpause _ =>
      exact @StopsLast.append _ [sender.refusedEvent] _ _ hpause.stopsLast hgo
  | retried _ _ _ hgo _ ih => exact ih.append hgo

/-! The same for the loop. Behind a stop in a datagram that goes out its progress line is left. -/

theorem SendsAll.firstStop {remaining : Nat} {result : Except SenderError Unit}
    (h : SendsAll hold remaining sender stage log result final)
    (hle : remaining ≤ sender.config.count) {event : Event} {after : List Event}
    (hstop : stage.script.firstStop? log = some (event, after)) :
    after = if event.isSent then
      [.printed (progressText sender.config.count
        (sender.config.count - remaining + Log.sentCount log - 1))] else [] := by
  induction h with
  | finished => cases hstop
  | stopped => cases hstop
  | failed _ hsend =>
      obtain ⟨rfl, hevent⟩ := hsend.stopsLast _ _ hstop
      rw [hevent]
      rfl
  | abandoned _ hsend =>
      obtain ⟨rfl, hevent⟩ := hsend.stopsLast _ _ hstop
      rw [hevent]
      rfl
  | notPaused _ hsend hsleep =>
      -- a wait that fails has not met a stop
      cases hsleep with
      | failed hgo _ =>
          rw [List.append_nil, Stage.firstStop?_of_go hgo] at hstop
          cases hstop
  | @stoppedInPause remaining sender sent stage log pause bytes _ hsend hsleep =>
      rw [turn_sentCount hsend hsleep]
      have hlast : StopsLast (stage.after (log ++ [sent.progressEvent remaining])) pause false :=
        hsleep.stopsLast
      -- the stop was pending before the pause, or it arrived in it
      cases hsleep with
      | pending hpending =>
          rw [List.append_nil, Script.firstStop?_append] at hstop
          cases hfirst : stage.script.firstStop? log with
          | none =>
              rw [hfirst] at hstop
              cases hstop
          | some found =>
              obtain ⟨event', after'⟩ := found
              obtain ⟨rfl, hevent⟩ := hsend.stopsLast _ _ hfirst
              rw [hfirst] at hstop
              cases hstop
              rw [hevent, progressEvent, hsend.keeps.config]
              rfl
      | waited hgo _ _ =>
          obtain ⟨rfl, hevent⟩ := hlast.append hgo _ _ hstop
          rw [hevent]
          rfl
  | @next remaining sender sent _ stage log pause rest _ _ _ hsend hsleep _ ih =>
      have hgo : (stage.after (log ++ [sent.progressEvent remaining] ++ pause)).stopRequested =
          false := by
        rw [Stage.after_append]
        exact hsleep.stop_eq
      rw [Script.firstStop?_append, Stage.firstStop?_of_go hgo, ← Stage.script_after] at hstop
      have hconfig := (turn_keeps hsend).config
      rw [hconfig] at ih
      rw [ih (by omega) hstop, Log.sentCount_append, turn_sentCount hsend hsleep]
      have hindex : sender.config.count - remaining + Log.sentCount rest - 1 =
          sender.config.count - (remaining + 1) + (1 + Log.sentCount rest) - 1 := by omega
      rw [hindex]

/-- An error after a stop request is that of a datagram, so that not all datagrams went out. -/
theorem SendsAll.sentCount_lt_of_error {remaining : Nat} {error : SenderError}
    (h : SendsAll hold remaining sender stage log (.error error) final)
    (hstop : (stage.after log).stopRequested = true) : Log.sentCount log < remaining := by
  generalize hresult : (Except.error error : Except SenderError Unit) = result at h
  induction h with
  | finished => cases hresult
  | stopped => cases hresult
  | failed _ hsend =>
      cases hresult
      rw [hsend.sentCount_eq]
      exact Nat.succ_pos _
  | abandoned => cases hresult
  | notPaused _ _ hsleep =>
      cases hsleep with
      | failed hgo _ =>
          rw [List.append_nil, hgo] at hstop
          cases hstop
  | stoppedInPause => cases hresult
  | next _ hsend hsleep _ ih =>
      rw [Stage.after_append] at hstop
      rw [Log.sentCount_append, turn_sentCount hsend hsleep]
      have hlt := ih hstop hresult
      omega

end Sender

end Heartbeat
