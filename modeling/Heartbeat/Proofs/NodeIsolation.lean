import Heartbeat.Proofs.WatchdogNodes

/-!
# Nodes do not influence each other

What a session shows of a node depends on the clock, on the datagrams of that node and on what the
owner asks, but not on the datagrams of any other node. Leave those out, and at every step that
remains the same is known about the node, its statistics are the same, and the answer says the same
about it (`sights_without_others`).

Two sessions are compared that agree on the clock and on the node (`AgreeOn`), nothing else. A step
that both take keeps them in agreement, and so does a datagram of another node that only one of them
gets. The lists of nodes must be ordered, because a name is found in them by its first entry while
nodes are reported and dropped by going through all of them.
-/

namespace Heartbeat.Watchdog

/-- Is the step a datagram of another node, recorded or received? -/
def Step.concernsOther (name : String) : Step → Bool
  | .record other _ _ | .receive (.datagram other _) => other ≠ name
  | _ => false

/-- What an answer says about a node. Of names it counts whether that of the node is among them;
the statistics of another node say nothing. -/
def Answer.about (name : String) : Step → Answer → Answer
  | .statistics other, answer => if other = name then answer else .done
  | _, .names found => .names (if name ∈ found then [name] else [])
  | _, answer => answer

/-- What a step shows of a node. -/
structure Sight where
  /-- When it was last seen, its latest payload and its arrivals, if it is known after the step. -/
  known : Option Node
  /-- Its statistics after the step. -/
  statistics : Statistics
  /-- What the step answers about it. -/
  answer : Answer
  deriving DecidableEq

namespace Session

def sight (name : String) (session : Session) (step : Step) : Sight where
  known := (session.step step).2.watchdog.find? name
  statistics := (session.step step).2.watchdog.statistics name
  answer := (session.step step).1.about name step

/-- The steps, each with what it shows of a node. -/
def sights (name : String) (session : Session) : List Step → List (Step × Sight)
  | [] => []
  | step :: steps =>
    (step, session.sight name step) :: sights name (session.step step).2 steps

end Session

theorem statistics_eq {name : String} {watchdog other : Watchdog}
    (h : watchdog.find? name = other.find? name) :
    watchdog.statistics name = other.statistics name := by
  rw [statistics, h, statistics]

/-! ## Sessions that agree on a node -/

theorem Ordered.step {session : Session} (h : Ordered session.watchdog.nodes) (step : Step) :
    Ordered (session.step step).2.watchdog.nodes := by
  cases step with
  | record => exact h.enter
  | dropStale => exact h.filter _
  | receive arrival =>
      cases arrival with
      | datagram => exact h.enter
      | nothing | failed => exact h
  | setClock | live | statistics => exact h

/-- The sessions agree on the clock and on all that is known about the node. -/
structure AgreeOn (name : String) (first second : Session) : Prop where
  clock : first.clock = second.clock
  known : first.watchdog.find? name = second.watchdog.find? name
  firstOrdered : Ordered first.watchdog.nodes
  secondOrdered : Ordered second.watchdog.nodes

variable {name : String} {first second : Session}

theorem agreeOn_new (name : String) (clock : Binary64) : AgreeOn name { clock } { clock } :=
  ⟨rfl, rfl, List.Pairwise.nil, List.Pairwise.nil⟩

theorem find?_record_of_ne {watchdog : Watchdog} {other : String} (hne : other ≠ name)
    (payload : Payload) (time : Binary64) :
    (watchdog.record other payload time).find? name = watchdog.find? name := by
  rw [find?_record, if_neg hne.symm]

/-- A datagram of another node that only one session gets. -/
theorem AgreeOn.skip (h : AgreeOn name first second) {step : Step}
    (hother : step.concernsOther name = true) : AgreeOn name (first.step step).2 second := by
  have hordered := h.firstOrdered.step step
  cases step with
  | record other payload time =>
      have hne : other ≠ name := of_decide_eq_true hother
      exact ⟨h.clock, (find?_record_of_ne hne _ _).trans h.known, hordered, h.secondOrdered⟩
  | receive arrival =>
      cases arrival with
      | datagram other payload =>
          have hne : other ≠ name := of_decide_eq_true hother
          exact ⟨h.clock, (find?_record_of_ne hne _ _).trans h.known, hordered,
            h.secondOrdered⟩
      | nothing | failed => cases hother
  | setClock | live | dropStale | statistics => cases hother

theorem AgreeOn.find?_record (h : AgreeOn name first second) (payload : Payload)
    (time : Binary64) :
    (first.watchdog.record name payload time).find? name =
      (second.watchdog.record name payload time).find? name := by
  rw [Watchdog.find?_record, Watchdog.find?_record, h.known]

theorem AgreeOn.find?_step (h : AgreeOn name first second) {step : Step}
    (hown : step.concernsOther name = false) :
    (first.step step).2.watchdog.find? name = (second.step step).2.watchdog.find? name := by
  have hclock := h.clock
  cases step with
  | record other payload time =>
      obtain rfl : other = name := by simpa [Step.concernsOther] using hown
      show (first.watchdog.record other payload (time.getD first.clock)).find? other = _
      rw [h.find?_record, hclock]
      rfl
  | receive arrival =>
      cases arrival with
      | datagram other payload =>
          obtain rfl : other = name := by simpa [Step.concernsOther] using hown
          show (first.watchdog.record other (payload.take bufferLength) first.clock).find? other = _
          rw [h.find?_record, hclock]
          rfl
      | nothing | failed => exact h.known
  | dropStale maxAge time =>
      show (first.watchdog.dropStale maxAge (time.getD first.clock)).2.find? name =
        (second.watchdog.dropStale maxAge (time.getD second.clock)).2.find? name
      rw [h.firstOrdered.find?_dropStale, h.secondOrdered.find?_dropStale, h.known, hclock]
  | setClock | live | statistics => exact h.known

theorem AgreeOn.step (h : AgreeOn name first second) {step : Step}
    (hown : step.concernsOther name = false) :
    AgreeOn name (first.step step).2 (second.step step).2 where
  clock := by
    cases step with
    | setClock => rfl
    | record | receive | live | dropStale | statistics => exact h.clock
  known := h.find?_step hown
  firstOrdered := h.firstOrdered.step step
  secondOrdered := h.secondOrdered.step step

theorem names_about_eq {found others : List String} (h : name ∈ found ↔ name ∈ others) :
    Answer.names (if name ∈ found then [name] else []) =
      .names (if name ∈ others then [name] else []) := by
  simp only [h]

theorem AgreeOn.about_eq (h : AgreeOn name first second) (step : Step) :
    (first.step step).1.about name step = (second.step step).1.about name step := by
  have hclock := h.clock
  cases step with
  | live maxAge time =>
      have hmem : name ∈ first.watchdog.live maxAge (time.getD first.clock) ↔
          name ∈ second.watchdog.live maxAge (time.getD second.clock) := by
        rw [h.firstOrdered.mem_live_iff, h.secondOrdered.mem_live_iff, h.known, hclock]
      exact names_about_eq hmem
  | dropStale maxAge time =>
      have hmem : name ∈ (first.watchdog.dropStale maxAge (time.getD first.clock)).1 ↔
          name ∈ (second.watchdog.dropStale maxAge (time.getD second.clock)).1 := by
        rw [h.firstOrdered.mem_dropStale_iff, h.secondOrdered.mem_dropStale_iff, h.known, hclock]
      exact names_about_eq hmem
  | statistics other =>
      by_cases hother : other = name
      · subst hother
        show Answer.about other _ (.statistics (first.watchdog.statistics other)) = _
        rw [statistics_eq h.known]
        rfl
      · simp only [Answer.about, if_neg hother]
  | setClock | record => rfl
  | receive arrival =>
      cases arrival with
      | nothing | failed | datagram => rfl

theorem AgreeOn.sight_eq (h : AgreeOn name first second) {step : Step}
    (hown : step.concernsOther name = false) :
    first.sight name step = second.sight name step := by
  have hknown := h.find?_step hown
  rw [Session.sight, Session.sight, hknown, statistics_eq hknown, h.about_eq]

/-- The sessions show the same of the node, if one of them gets no datagrams of other nodes. -/
theorem AgreeOn.sights_eq (h : AgreeOn name first second) (steps : List Step) :
    (first.sights name steps).filter (fun entry => !entry.1.concernsOther name) =
      second.sights name (steps.filter fun step => !step.concernsOther name) := by
  -- the sessions drift apart on all other nodes, so they are not fixed
  induction steps generalizing first second with
  | nil => rfl
  | cons step steps ih =>
      rw [Session.sights, List.filter_cons, List.filter_cons]
      cases hstep : step.concernsOther name with
      | true => exact ih (h.skip hstep)
      | false =>
          show (step, _) :: List.filter _ _ = Session.sights name second (step :: _)
          rw [Session.sights, h.sight_eq hstep, ih (h.step hstep)]

/-- Without the datagrams of other nodes a session shows the same of a node at every step that is
left. -/
theorem sights_without_others (name : String) (clock : Binary64) (steps : List Step) :
    (Session.sights name { clock } steps).filter (fun entry => !entry.1.concernsOther name) =
      Session.sights name { clock } (steps.filter fun step => !step.concernsOther name) :=
  (agreeOn_new name clock).sights_eq steps

end Heartbeat.Watchdog
