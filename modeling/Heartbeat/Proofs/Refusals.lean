import Heartbeat.Proofs.RunLog

/-!
# Refused attempts

`Log.refusals` lists the refused attempts of a log, each with its number among the attempts for its
datagram and with whether a stop was pending right after it. The sender goes on to the pause before
a retry after an attempt that leaves a retry and meets no stop. In a run, and in a send, all refused
attempts but the last are of this kind; the last is too, unless it used the attempts up or met a
stop. That is what the counts of failures and retries book (`Sends.books`, `SendsAll.books`).
-/

namespace Heartbeat

namespace Event

/-- Did the network refuse a datagram? -/
def isRefused : Event → Bool
  | refused .. => true
  | _ => false

end Event

/-- A refused attempt, as it shows in a log. -/
structure Refusal where
  /-- Which of the attempts for its datagram it was, counted from one. -/
  attempt : Nat
  /-- Was a stop pending right after it? -/
  stopping : Bool

/-- Does the sender begin the pause before a retry after this attempt? It does if a retry is left
and no stop is pending. -/
def Refusal.leadsOn (limit : Nat) (refusal : Refusal) : Bool :=
  refusal.attempt ≤ limit && !refusal.stopping

/-- Is a retry that was left given up after this attempt, as a stop is pending? -/
def Refusal.GivesUp (limit : Nat) (refusal : Refusal) : Prop :=
  refusal.attempt ≤ limit ∧ refusal.stopping = true

namespace Log

/-- How many datagrams were refused. -/
def refusedCount (log : List Event) : Nat := log.countP Event.isRefused

/-- The refused attempts of a log that begins on a stage after so many failures of one datagram. -/
def refusals (failures : Nat) (stage : Stage) : List Event → List Refusal
  | [] => []
  | event :: log =>
    let rest := refusals (event.failuresAfter failures) (stage.next event) log
    if event.isRefused then ⟨failures + 1, (stage.next event).stopRequested⟩ :: rest else rest

theorem refusedCount_append (first rest : List Event) :
    refusedCount (first ++ rest) = refusedCount first + refusedCount rest :=
  List.countP_append

theorem refusals_append (failures : Nat) (stage : Stage) (first rest : List Event) :
    refusals failures stage (first ++ rest) = refusals failures stage first ++
      refusals (first.foldl Event.failuresAfter failures) (stage.after first) rest := by
  induction first generalizing failures stage with
  | nil => rfl
  | cons event first ih =>
      rw [List.cons_append, refusals, refusals, ih]
      split
      · rfl
      · rfl

theorem length_refusals (failures : Nat) (stage : Stage) (log : List Event) :
    (refusals failures stage log).length = refusedCount log := by
  induction log generalizing failures stage with
  | nil => rfl
  | cons event log ih =>
      rw [refusals, refusedCount, List.countP_cons]
      split
      · rw [List.length_cons, ih]
        rfl
      · rw [ih]
        rfl

/-! Pauses and lines are no refusals. -/

theorem refusals_of_isPause {log : List Event} (h : ∀ event ∈ log, event.isPause = true)
    (failures : Nat) (stage : Stage) : refusals failures stage log = [] := by
  rw [← List.length_eq_zero_iff, length_refusals, refusedCount, List.countP_eq_zero]
  intro event hevent
  obtain ⟨seconds, rfl | rfl⟩ := Event.eq_of_isPause (h event hevent)
  · exact Bool.false_ne_true
  · exact Bool.false_ne_true

end Log

namespace Sender

variable {hold : Bool} {sender final : Sender} {stage : Stage} {log : List Event}

/-! ## The refused attempts of a run or a send -/

/-- What comes behind the refused attempts that led on to a pause: nothing, or one more that did
not, either because the attempts were used up or because a stop was pending. -/
inductive LastRefusal (limit : Nat) (failed stopped : Prop) : List Refusal → Prop
  | none (h : ¬ failed) : LastRefusal limit failed stopped []
  | usedUp {stopping : Bool} (h : failed) : LastRefusal limit failed stopped [⟨limit + 1, stopping⟩]
  | givenUp {attempt : Nat} (h : ¬ failed) (hstopped : stopped) (hle : attempt ≤ limit) :
      LastRefusal limit failed stopped [⟨attempt, true⟩]

/-- The counts of failures and retries grow by the refused attempts and by those of them that lead
on to a pause. -/
def Books (limit : Nat) (sender final : Sender) (failed stopped : Prop)
    (refusals : List Refusal) : Prop :=
  ∃ paid last, refusals = paid ++ last ∧ (∀ refusal ∈ paid, refusal.leadsOn limit = true) ∧
    final.tally.failures = sender.tally.failures + refusals.length ∧
    final.tally.retries = sender.tally.retries + paid.length ∧
    LastRefusal limit failed stopped last

theorem Books.nil {limit : Nat} {failed stopped : Prop} (h : ¬ failed) (sender : Sender) :
    Books limit sender sender failed stopped [] :=
  ⟨[], [], rfl, by simp, rfl, rfl, .none h⟩

theorem Books.append {limit : Nat} {middle : Sender} {failed stopped failed' stopped' : Prop}
    {first rest : List Refusal} (h : Books limit sender middle failed stopped first)
    (hfailed : ¬ failed) (hstopped : ¬ stopped)
    (h' : Books limit middle final failed' stopped' rest) :
    Books limit sender final failed' stopped' (first ++ rest) := by
  obtain ⟨paid, last, rfl, hpaid, hfailures, hretries, hlast⟩ := h
  obtain ⟨paid', last', rfl, hpaid', hfailures', hretries', hlast'⟩ := h'
  cases hlast with
  | usedUp h => exact absurd h hfailed
  | givenUp _ h _ => exact absurd h hstopped
  | none =>
      refine ⟨paid ++ paid', last', by simp, ?_, ?_, ?_, hlast'⟩
      · intro refusal hmem
        exact (List.mem_append.mp hmem).elim (hpaid refusal) (hpaid' refusal)
      · rw [hfailures', hfailures, Nat.add_assoc, ← List.length_append]
      · rw [hretries', hretries, List.length_append, Nat.add_assoc]

theorem Books.imp {limit : Nat} {failed stopped failed' stopped' : Prop}
    {refusals : List Refusal} (h : Books limit sender final failed stopped refusals)
    (hfailed : failed ↔ failed') (hstopped : stopped → stopped') :
    Books limit sender final failed' stopped' refusals := by
  obtain ⟨paid, last, heq, hpaid, hfailures, hretries, hlast⟩ := h
  refine ⟨paid, last, heq, hpaid, hfailures, hretries, ?_⟩
  cases hlast with
  | none h => exact .none (mt hfailed.mpr h)
  | usedUp h => exact .usedUp (hfailed.mp h)
  | givenUp h h' hle => exact .givenUp (mt hfailed.mpr h) (hstopped h') hle

theorem refusals_refused_pause {delay : Binary64} {result : Except SenderError Unit}
    {pause : List Event} {paused : Sender} {at_ : Stage}
    (h : Pauses paused delay at_ hold pause result) (failures : Nat) (stage : Stage) :
    Log.refusals failures stage (sender.refusedEvent :: pause) =
      [⟨failures + 1, (stage.next sender.refusedEvent).stopRequested⟩] := by
  show _ :: Log.refusals _ _ pause = _
  rw [Log.refusals_of_isPause h.isPause]

/-- A refused attempt that leaves a retry is booked as a failure and a retry. -/
theorem books_refused_pause {delay : Binary64} {retries failures : Nat} {failed stopped : Prop}
    {result : Except SenderError Unit} {pause : List Event} {paused : Sender} {at_ : Stage}
    (h : Pauses paused delay at_ hold pause result) (hfailed : ¬ failed)
    (hgo : (stage.next sender.refusedEvent).stopRequested = false) :
    Books (failures + (retries + 1)) sender sender.countFailure.countRetry failed stopped
      (Log.refusals failures stage (sender.refusedEvent :: pause)) := by
  rw [refusals_refused_pause h, hgo]
  refine ⟨[_], [], rfl, ?_, rfl, rfl, .none hfailed⟩
  intro refusal hmem
  rw [List.mem_singleton.mp hmem]
  simp [Refusal.leadsOn]

theorem Sends.books {delay : Binary64} {retries : Nat}
    {result : Except SenderError (Option Int)}
    (h : Sends hold delay retries sender stage log result final) (failures : Nat) :
    Books (failures + retries) sender final (∃ fault, result = .error (.notSent fault))
      (result = .ok none) (Log.refusals failures stage log) := by
  induction h generalizing failures with
  | delivered => exact .nil (by simp) _
  | exhausted => exact ⟨[], [_], rfl, by simp, rfl, rfl, .usedUp ⟨_, rfl⟩⟩
  | @abandoned _ retries sender stage _ _ hstop =>
      show Books _ _ _ _ _ [⟨failures + 1, (stage.next sender.refusedEvent).stopRequested⟩]
      rw [hstop]
      exact ⟨[], [_], rfl, by simp, rfl, rfl, .givenUp (by simp) rfl (by omega)⟩
  | notPaused _ hgo hpause =>
      refine books_refused_pause hpause ?_ hgo
      rintro ⟨fault, heq⟩
      cases heq
      cases hpause.not_isReported
  | abandonedInPause _ hgo hpause _ => exact books_refused_pause hpause (by simp) hgo
  | @retried delay retries sender _ _ _ _ _ _ _ hgo hpause _ _ ih =>
      rw [Log.refusals_append, failures_refused_pause hpause]
      have hfirst : Books (failures + (retries + 1)) _ _ False False _ :=
        books_refused_pause hpause id hgo
      have hrest := ih (failures + 1)
      rw [show failures + 1 + retries = failures + (retries + 1) by omega] at hrest
      exact hfirst.append id id hrest

/-- The lines and pauses of a turn are no refused attempts. -/
theorem turn_refusals {remaining : Nat} {bytes : Int} {sent : Sender} {at_ : Stage}
    {pause : List Event} {pausing : Except SenderError Bool}
    (hsleep : Sleeps (sent.countSent bytes) sent.config.interval at_ pause pausing) :
    Log.refusals 0 stage (log ++ [sent.progressEvent remaining] ++ pause) =
      Log.refusals 0 stage log := by
  rw [Log.refusals_append, Log.refusals_append, Log.refusals_of_isPause hsleep.isPause]
  show Log.refusals 0 stage log ++ [] ++ [] = _
  rw [List.append_nil, List.append_nil]

/-- A turn whose datagram goes out is booked without a refused attempt that is left. -/
theorem turn_books {remaining : Nat} {bytes : Int} {sent : Sender}
    {at_ : Stage} {pause : List Event} {pausing : Except SenderError Bool}
    {failed stopped : Prop} (hfailed : ¬ failed)
    (hsend : Sends hold sender.policy.backoff sender.policy.limit sender stage log
      (.ok (some bytes)) sent)
    (hsleep : Sleeps (sent.countSent bytes) sent.config.interval at_ pause pausing) :
    Books sender.policy.limit sender (sent.countSent bytes) failed stopped
      (Log.refusals 0 stage (log ++ [sent.progressEvent remaining] ++ pause)) := by
  rw [turn_refusals hsleep]
  have hbooks := hsend.books 0
  rw [Nat.zero_add] at hbooks
  exact hbooks.imp (iff_of_false (by simp) hfailed) (by simp)

theorem SendsAll.books {remaining : Nat} {result : Except SenderError Unit}
    (h : SendsAll hold remaining sender stage log result final) :
    Books sender.policy.limit sender final (∃ fault, result = .error (.notSent fault))
      (result = .ok ()) (Log.refusals 0 stage log) := by
  induction h with
  | finished => exact .nil (by simp) _
  | stopped => exact .nil (by simp) _
  | failed _ hsend =>
      have hbooks := hsend.books 0
      rw [Nat.zero_add] at hbooks
      exact hbooks.imp (by simp) (by simp)
  | abandoned _ hsend =>
      have hbooks := hsend.books 0
      rw [Nat.zero_add] at hbooks
      exact hbooks.imp (by simp) (by simp)
  | notPaused _ hsend hsleep =>
      refine turn_books ?_ hsend hsleep
      rintro ⟨fault, heq⟩
      cases heq
      cases hsleep.not_isReported
  | stoppedInPause _ hsend hsleep => exact turn_books (by simp) hsend hsleep
  | next _ hsend hsleep _ ih =>
      rw [Log.refusals_append, ← Log.failuresInARow, turn_failures hsend hsleep]
      rw [(turn_keeps hsend).policy] at ih
      refine Books.append (?_ : Books _ _ _ False False _) id id ih
      exact turn_books id hsend hsleep

theorem countP_leadsOn {limit : Nat} {failed stopped : Prop} {paid last : List Refusal}
    (hpaid : ∀ refusal ∈ paid, refusal.leadsOn limit = true)
    (hlast : LastRefusal limit failed stopped last) :
    (paid ++ last).countP (·.leadsOn limit) = paid.length := by
  have hnone : last.countP (·.leadsOn limit) = 0 := by
    cases hlast with
    | none => rfl
    | usedUp =>
        have hmore : ¬ limit + 1 ≤ limit := by omega
        simp [Refusal.leadsOn, hmore]
    | givenUp => simp [Refusal.leadsOn]
  rw [List.countP_append, List.countP_eq_length.mpr hpaid, hnone, Nat.add_zero]

theorem Books.of_tally_eq {limit : Nat} {middle : Sender} {failed stopped : Prop}
    {refusals : List Refusal} (h : Books limit sender middle failed stopped refusals)
    (htally : final.tally = middle.tally) : Books limit sender final failed stopped refusals := by
  obtain ⟨paid, last, heq, hpaid, hfailures, hretries, hlast⟩ := h
  exact ⟨paid, last, heq, hpaid, htally ▸ hfailures, htally ▸ hretries, hlast⟩

end Sender

end Heartbeat
