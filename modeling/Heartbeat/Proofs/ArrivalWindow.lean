import Mathlib.Data.List.DropRight
import Heartbeat.Proofs.NodeIsolation
import Heartbeat.Proofs.WatchdogTables

/-!
# The arrivals of a node are a window on its history

Of the times that have been recorded for a node since it was last dropped, the latest are
remembered. They are not kept from the whole history, though: each arrival is put behind those that
are still there, and what is too much goes in front. Because what has gone would not be among the
latest any more, this comes to the same (`recent_recent_append`), however long the history is.

So the arrivals are read off what a session has done, entry by entry (`Session.Remembers.step`,
`Session.Remembers.after`), and the statistics of a node are about the gaps of that window alone
(`arrivals_window`).
-/

namespace Heartbeat.Watchdog

/-- The arrivals that are remembered of a node; none of an unknown one. -/
def arrivals (watchdog : Watchdog) (name : String) : List Binary64 :=
  ((watchdog.find? name).map Node.arrivals).getD []

/-! ## What a session has done -/

/-- A step that has been taken, with what the clock showed and what was answered. -/
structure Entry where
  step : Step
  clock : Binary64
  answer : Answer
  deriving DecidableEq

namespace Entry

/-- The time that was recorded for a node, if one was. A step that names no time happens at the
clock. -/
def time? (name : String) : Entry → Option Binary64
  | ⟨.record other _ time, clock, _⟩ => if other = name then some (time.getD clock) else none
  | ⟨.receive _, clock, .received (some (other, _))⟩ => if other = name then some clock else none
  | _ => none

/-- Was the node dropped? -/
def drops (name : String) : Entry → Bool
  | ⟨.dropStale .., _, .names names⟩ => name ∈ names
  | _ => false

end Entry

/-- What a session does, step by step. -/
def Session.chronicle (session : Session) : List Step → List Entry
  | [] => []
  | step :: steps =>
    ⟨step, session.clock, (session.step step).1⟩ :: chronicle (session.step step).2 steps

/-- The times recorded for a node since it was last dropped, or since the beginning. -/
def timesSinceDrop (name : String) (entries : List Entry) : List Binary64 :=
  (entries.rtakeWhile fun entry => !entry.drops name).filterMap (Entry.time? name)

theorem timesSinceDrop_append (name : String) (entries : List Entry) (last : Entry) :
    timesSinceDrop name (entries ++ [last]) =
      if last.drops name then [] else timesSinceDrop name entries ++ (last.time? name).toList := by
  unfold timesSinceDrop
  rw [List.rtakeWhile_concat]
  cases last.drops name with
  | true => rfl
  | false =>
      simp only [Bool.not_false, if_true, List.filterMap_append, Bool.false_eq_true, if_false]
      cases htime : last.time? name with
      | none => simp [htime]
      | some time => simp [htime]

/-! ## The window -/

/-- What has been left out of the latest would not be among them later either. -/
theorem rtake_rtake_append {α : Type} (count : Nat) (earlier : List α) (last : α) :
    (earlier.rtake count ++ [last]).rtake count = (earlier ++ [last]).rtake count := by
  have hkept : earlier.rtake count ++ [last] =
      (earlier ++ [last]).drop (earlier.length - count) := by
    rw [List.rtake, List.drop_append_of_le_length (by omega)]
  rw [hkept, List.rtake, List.rtake, List.drop_drop]
  congr 1
  rw [List.length_drop, List.length_append, List.length_singleton]
  omega

theorem length_rtake {α : Type} (count : Nat) (list : List α) :
    (list.rtake count).length = min count list.length := by
  rw [List.rtake, List.length_drop]
  omega

theorem length_recent (arrivals : List Binary64) :
    (recent arrivals).length = min historyLength arrivals.length :=
  length_rtake historyLength arrivals

theorem recent_recent_append (earlier : List Binary64) (time : Binary64) :
    recent (recent earlier ++ [time]) = recent (earlier ++ [time]) :=
  rtake_rtake_append historyLength earlier time

theorem arrivals_record (watchdog : Watchdog) (name other : String) (payload : Payload)
    (time : Binary64) :
    (watchdog.record name payload time).arrivals other =
      if other = name then recent (watchdog.arrivals name ++ [time])
      else watchdog.arrivals other := by
  unfold arrivals
  rw [find?_record]
  by_cases hname : other = name
  · rw [if_pos hname, if_pos hname, Option.map_some, Option.getD_some]
  · rw [if_neg hname, if_neg hname]

theorem Ordered.arrivals_dropStale {watchdog : Watchdog} (h : Ordered watchdog.nodes)
    (maxAge time : Binary64) (name : String) :
    (watchdog.dropStale maxAge time).2.arrivals name =
      if name ∈ (watchdog.dropStale maxAge time).1 then [] else watchdog.arrivals name := by
  unfold arrivals
  have hdropped : name ∈ (watchdog.dropStale maxAge time).1 ↔
      ∃ node, watchdog.find? name = some node ∧ isStale maxAge time node = true :=
    h.mem_dropStale_iff maxAge time
  rw [h.find?_dropStale]
  cases hfind : watchdog.find? name with
  | none => simp
  | some node =>
      rw [hfind] at hdropped
      have hmem : name ∈ (watchdog.dropStale maxAge time).1 ↔ isStale maxAge time node = true := by
        rw [hdropped]
        simp
      rw [if_congr hmem rfl rfl, Option.filter_some]
      cases isStale maxAge time node with
      | true => rfl
      | false => rfl

namespace Session

/-- The session remembers of every node the latest times that the entries hold for it. -/
structure Remembers (session : Session) (entries : List Entry) : Prop where
  ordered : Ordered session.watchdog.nodes
  arrivals : ∀ name, session.watchdog.arrivals name = recent (timesSinceDrop name entries)

theorem remembers_new (clock : Binary64) : Remembers { clock } [] where
  ordered := List.Pairwise.nil
  arrivals := by
    intro name
    rw [recent, timesSinceDrop, List.rtakeWhile_nil, List.filterMap_nil, List.drop_nil]
    rfl

variable {session next : Session} {entries : List Entry} {entry : Entry}

theorem Remembers.quiet (h : session.Remembers entries)
    (hwatchdog : next.watchdog = session.watchdog) (hdrops : ∀ name, entry.drops name = false)
    (htime : ∀ name, entry.time? name = none) : next.Remembers (entries ++ [entry]) where
  ordered := hwatchdog ▸ h.ordered
  arrivals := by
    intro name
    rw [timesSinceDrop_append, hdrops, htime, hwatchdog, h.arrivals]
    simp

theorem Remembers.record (h : session.Remembers entries) {other : String} {payload : Payload}
    {time : Binary64} (hwatchdog : next.watchdog = session.watchdog.record other payload time)
    (hdrops : ∀ name, entry.drops name = false)
    (htime : ∀ name, entry.time? name = if other = name then some time else none) :
    next.Remembers (entries ++ [entry]) where
  ordered := hwatchdog ▸ h.ordered.enter
  arrivals := by
    intro name
    rw [timesSinceDrop_append, hdrops, htime, hwatchdog, arrivals_record]
    by_cases hname : other = name
    · subst hname
      rw [if_pos rfl, if_pos rfl, h.arrivals, recent_recent_append]
      rfl
    · rw [if_neg (Ne.symm hname), if_neg hname, h.arrivals]
      simp

theorem Remembers.dropStale (h : session.Remembers entries) {maxAge time : Binary64}
    (hwatchdog : next.watchdog = (session.watchdog.dropStale maxAge time).2)
    (hdrops : ∀ name, entry.drops name =
      decide (name ∈ (session.watchdog.dropStale maxAge time).1))
    (htime : ∀ name, entry.time? name = none) : next.Remembers (entries ++ [entry]) where
  ordered := hwatchdog ▸ h.ordered.filter _
  arrivals := by
    intro name
    rw [timesSinceDrop_append, hdrops, htime, hwatchdog, h.ordered.arrivals_dropStale]
    by_cases hmem : name ∈ (session.watchdog.dropStale maxAge time).1
    · simp [hmem, recent]
    · simp [hmem, h.arrivals]

/-- What a step does to the arrivals can be read off its entry. -/
theorem Remembers.step (h : session.Remembers entries) (step : Step) :
    (session.step step).2.Remembers
      (entries ++ [⟨step, session.clock, (session.step step).1⟩]) := by
  cases step with
  | setClock time => exact h.quiet rfl (fun _ => rfl) (fun _ => rfl)
  | record name payload time => exact h.record rfl (fun _ => rfl) (fun _ => rfl)
  | receive arrival =>
      cases arrival with
      | nothing => exact h.quiet rfl (fun _ => rfl) (fun _ => rfl)
      | failed fault =>
          refine h.quiet rfl (fun _ => rfl) ?_
          intro name
          simp only [Session.step, receive]
          cases fault.meansNothingArrived <;> rfl
      | datagram name payload => exact h.record rfl (fun _ => rfl) (fun _ => rfl)
  | live maxAge time => exact h.quiet rfl (fun _ => rfl) (fun _ => rfl)
  | dropStale maxAge time => exact h.dropStale rfl (fun _ => rfl) (fun _ => rfl)
  | statistics name => exact h.quiet rfl (fun _ => rfl) (fun _ => rfl)

theorem Remembers.after (h : session.Remembers entries) (steps : List Step) :
    (session.after steps).Remembers (entries ++ session.chronicle steps) := by
  induction steps generalizing session entries with
  | nil => exact (List.append_nil entries).symm ▸ h
  | cons step steps ih =>
      have hrest := ih (h.step step)
      rw [List.append_assoc] at hrest
      exact hrest

/-- The entries are the steps with their answers. -/
theorem map_chronicle (session : Session) (steps : List Step) :
    (session.chronicle steps).map (fun entry => (entry.step, entry.answer)) =
      session.transcript steps := by
  induction steps generalizing session with
  | nil => rfl
  | cons step steps ih =>
      rw [chronicle, transcript, List.map_cons, ih]

end Session

/-! ## The statistics of a window -/

/-- The gaps between the neighbours in a window. -/
structure AreGaps (window gaps : List Binary64) : Prop where
  length_eq : gaps.length = window.length - 1
  gap_eq : ∀ i earlier later, window[i]? = some earlier → window[i + 1]? = some later →
    gaps[i]? = some (later - earlier)

theorem areGaps_gaps (window : List Binary64) : AreGaps window (gaps window) where
  length_eq := by
    rw [gaps, List.length_zipWith, List.length_tail]
    omega
  gap_eq := by
    intro i earlier later hearlier hlater
    rw [gaps, List.getElem?_zipWith, List.getElem?_tail, hearlier, hlater]

/-- The statistics are those of a window: its length, and what is computed of its gaps if it has
any. -/
structure Summarizes (window : List Binary64) (statistics : Statistics) : Prop where
  count_eq : statistics.count = window.length
  few : window.length < 2 →
    statistics.mean = 0 ∧ statistics.deviation = 0 ∧ statistics.largest = 0
  enough : 2 ≤ window.length → ∃ gaps, AreGaps window gaps ∧ statistics.mean = mean gaps ∧
    statistics.deviation = deviation gaps ∧ statistics.largest = largest gaps

theorem summarizes_ofArrivals (window : List Binary64) :
    Summarizes window (.ofArrivals window) where
  count_eq := by
    unfold Statistics.ofArrivals
    split
    · rfl
    · rfl
  few := by
    intro hfew
    rw [Statistics.ofArrivals, if_pos hfew]
    exact ⟨rfl, rfl, rfl⟩
  enough := by
    intro henough
    rw [Statistics.ofArrivals, if_neg (by omega)]
    dsimp only
    exact ⟨gaps window, areGaps_gaps window, rfl, rfl, rfl⟩

/-- What is remembered of a node, in the list of nodes and in the tables, is the window of the
latest 1024 of all times that were recorded for it since it was last dropped, and its statistics are
those of this window. Nothing from before a drop is in it, and nothing that is older than the
window. -/
theorem arrivals_window (clock : Binary64) (steps : List Step) (name : String) :
    let session := Session.after { clock } steps
    let tables := (TableSession.after { clock } steps).tables
    let entries := Session.chronicle { clock } steps
    let times := timesSinceDrop name entries
    let window := times.rtake 1024
    entries.map (fun entry => (entry.step, entry.answer)) = Session.transcript { clock } steps ∧
      window.length = min 1024 times.length ∧
      session.watchdog.arrivals name = window ∧
      (session.watchdog.find? name = none ↔ times = []) ∧
      tables.arrivals.lookup name = (if times = [] then none else some window) ∧
      Summarizes window (session.watchdog.statistics name) ∧
      tables.statistics name = session.watchdog.statistics name := by
  intro session tables entries times window
  have hremembers : session.Remembers entries := (Session.remembers_new clock).after steps
  have harrivals : session.watchdog.arrivals name = window := by
    rw [hremembers.arrivals, recent, historyLength]
    rfl
  have hlength : window.length = min 1024 times.length := length_rtake 1024 times
  have hconsistent : Consistent session.watchdog _ :=
    (consistent_new : Consistent ({ clock } : Session).watchdog []).after steps
  have hnew : TableSession.Shows { clock } { clock } := ⟨Tables.shows_new, rfl⟩
  have hshows : tables.Shows session.watchdog := (hnew.transcript_eq consistent_new steps).2.tables
  -- a node that is known has been heard of, and is remembered with that
  have hknown : session.watchdog.find? name = none ↔ times = [] := by
    have hempty : window = [] ↔ times = [] := by
      rw [← List.length_eq_zero_iff, ← List.length_eq_zero_iff, hlength]
      omega
    rw [← hempty, ← harrivals, arrivals]
    cases hfind : session.watchdog.find? name with
    | none => simp
    | some node =>
        have hlast := (hconsistent.history name node hfind).2
        cases hnode : node.arrivals with
        | nil =>
            rw [hnode] at hlast
            cases hlast
        | cons => simp [hnode]
  refine ⟨Session.map_chronicle _ _, hlength, harrivals, hknown, ?_, ?_,
    hshows.statistics_eq name⟩
  · rw [hshows.arrivals, ← if_congr hknown rfl rfl, ← harrivals, arrivals]
    cases session.watchdog.find? name with
    | none => rfl
    | some node => rfl
  · rw [← harrivals]
    exact summarizes_ofArrivals _

end Heartbeat.Watchdog
