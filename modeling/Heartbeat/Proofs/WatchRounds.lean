import Heartbeat.Proofs.WatchdogNodes
import Heartbeat.Watch.Command

/-!
# The rounds of a watch

A watch is a sequence of rounds, each of which reads the socket once, may report a heartbeat, and
then reports the nodes it drops. `Watches` is the judgment of such a sequence: it keeps the reports
of every round apart, which the course of the command strings together. It is sound and complete for
the course (`Watches.course_eq`, `exists_watches`), so that what holds of a whole watch is shown by
induction on its rounds, from what one turn does (`turn_ok`). What is said of the watchdog and of
the reports so far, and kept by a heartbeat and by a drop, is kept by the whole watch
(`Kept.watches`).

A command line that is accepted and exits with 0 has watched to the end, that is until its deadline
or until it was interrupted, and what it has written is its reports and the summary
(`exists_concludes`).
-/

namespace Heartbeat.Watch

/-- The rounds from a clock reading and a watchdog on: what each shows, what is known in the end,
and what ends them. -/
inductive Watches (maxAge deadline : Option Binary64) :
    List Reception → Binary64 → Watchdog → List (List Notice) → Watchdog → Halt → Prop
  | ended {receptions : List Reception} {clock : Binary64} {watchdog : Watchdog}
      (hover : isOver deadline clock = true) :
      Watches maxAge deadline receptions clock watchdog [] watchdog .deadline
  | interrupted {clock : Binary64} {watchdog : Watchdog} (hgo : isOver deadline clock = false) :
      Watches maxAge deadline [] clock watchdog [] watchdog .interrupted
  | failed {reception : Reception} {rest : List Reception} {clock : Binary64}
      {watchdog : Watchdog} {shown : List Notice} {failure : Failure}
      (hgo : isOver deadline clock = false)
      (hturn : turn maxAge (clock + reception.advance) reception.arrival watchdog =
        (shown, .error failure)) :
      Watches maxAge deadline (reception :: rest) clock watchdog [shown] watchdog
        (.failed failure)
  | next {reception : Reception} {rest : List Reception} {clock : Binary64}
      {watchdog following final : Watchdog} {shown : List Notice} {rounds : List (List Notice)}
      {halt : Halt} (hgo : isOver deadline clock = false)
      (hturn : turn maxAge (clock + reception.advance) reception.arrival watchdog =
        (shown, .ok following))
      (hrest : Watches maxAge deadline rest (clock + reception.advance) following rounds final
        halt) :
      Watches maxAge deadline (reception :: rest) clock watchdog (shown :: rounds) final halt

variable {maxAge deadline : Option Binary64} {receptions : List Reception} {clock : Binary64}
  {watchdog final : Watchdog} {rounds : List (List Notice)} {halt : Halt}

theorem Watches.course_eq
    (h : Watches maxAge deadline receptions clock watchdog rounds final halt) :
    course maxAge deadline receptions clock watchdog = ⟨rounds.flatten, final, halt⟩ := by
  induction h with
  | @ended receptions _ _ hover =>
      cases receptions with
      | nil => simp [course, hover]
      | cons => simp [course, hover]
  | interrupted hgo => simp [course, hgo]
  | failed hgo hturn => simp [course, hgo, hturn]
  | next hgo hturn _ ih => simp [course, hgo, hturn, ih]

theorem exists_watches (maxAge deadline : Option Binary64) (receptions : List Reception)
    (clock : Binary64) (watchdog : Watchdog) :
    ∃ rounds final halt,
      Watches maxAge deadline receptions clock watchdog rounds final halt := by
  induction receptions generalizing clock watchdog with
  | nil =>
      cases hover : isOver deadline clock with
      | true => exact ⟨_, _, _, .ended hover⟩
      | false => exact ⟨_, _, _, .interrupted hover⟩
  | cons reception rest ih =>
      cases hover : isOver deadline clock with
      | true => exact ⟨_, _, _, .ended hover⟩
      | false =>
          rcases hturn : turn maxAge (clock + reception.advance) reception.arrival watchdog with
            ⟨shown, failure | following⟩
          · exact ⟨_, _, _, .failed hover hturn⟩
          · obtain ⟨rounds, final, halt, hrest⟩ := ih (clock + reception.advance) following
            exact ⟨_, _, _, .next hover hturn hrest⟩

/-! ## One turn -/

/-- The heartbeat that is reported of a read. -/
def heardOf (datagram : Option (String × Payload)) : List Notice :=
  datagram.toList.map fun (node, payload) => .heard node payload

/-- A turn that goes well reads the socket without a fault and reports the heartbeat if there was
one. Then it drops and reports the silent nodes; without a maximal age there are no nodes. -/
theorem turn_ok {time : Binary64} {arrival : Arrival} {shown : List Notice}
    {following : Watchdog} (h : turn maxAge time arrival watchdog = (shown, .ok following)) :
    ∃ datagram middle, watchdog.receive arrival time = (.ok datagram, middle) ∧
      ((∃ age, maxAge = some age ∧ following = (middle.dropStale age time).2 ∧
          shown = heardOf datagram ++ (middle.dropStale age time).1.map .expired) ∨
        (maxAge = none ∧ middle.nodes = [] ∧ following = middle ∧ shown = heardOf datagram)) := by
  rw [turn] at h
  rcases hreceive : watchdog.receive arrival time with ⟨fault | datagram, middle⟩
  · rw [hreceive] at h
    cases h
  · rw [hreceive] at h
    refine ⟨datagram, middle, rfl, ?_⟩
    cases maxAge with
    | some age =>
        cases h
        exact .inl ⟨age, rfl, rfl, rfl⟩
    | none =>
        obtain ⟨rfl, hfollowing⟩ := Prod.mk.inj h
        split at hfollowing
        · next hnone =>
            cases hfollowing
            exact .inr ⟨rfl, hnone, rfl, rfl⟩
        · cases hfollowing

theorem receive_some {arrival : Arrival} {time : Binary64} {name : String} {payload : Payload}
    {middle : Watchdog}
    (hreceive : watchdog.receive arrival time = (.ok (some (name, payload)), middle)) :
    (∃ whole, arrival = .datagram name whole ∧ payload = whole.take Watchdog.bufferLength) ∧
      middle = watchdog.record name payload time := by
  cases arrival with
  | nothing => cases hreceive
  | failed fault =>
      rw [Watchdog.receive] at hreceive
      split at hreceive
      · cases hreceive
      · cases hreceive
  | datagram name whole =>
      cases hreceive
      exact ⟨⟨whole, rfl, rfl⟩, rfl⟩

/-- What is said of a watchdog and the reports so far is kept, when a node is heard and reported and
when silent nodes are dropped and reported. -/
structure Kept (holds : Watchdog → List Notice → Prop) : Prop where
  record : ∀ {watchdog : Watchdog} {reports : List Notice}, holds watchdog reports →
    ∀ (name : String) (payload : Payload) (time : Binary64),
      holds (watchdog.record name payload time) (reports ++ [.heard name payload])
  dropStale : ∀ {watchdog : Watchdog} {reports : List Notice}, holds watchdog reports →
    ∀ maxAge time : Binary64, holds (watchdog.dropStale maxAge time).2
      (reports ++ (watchdog.dropStale maxAge time).1.map .expired)

section Kept

variable {holds : Watchdog → List Notice → Prop} {reports : List Notice}

theorem Kept.receive (hkept : Kept holds) (h : holds watchdog reports) {arrival : Arrival}
    {time : Binary64} {datagram : Option (String × Payload)} {middle : Watchdog}
    (hreceive : watchdog.receive arrival time = (.ok datagram, middle)) :
    holds middle (reports ++ heardOf datagram) := by
  cases datagram with
  | none =>
      have hunchanged : middle = watchdog := by
        cases arrival with
        | nothing =>
            cases hreceive
            rfl
        | failed fault => exact (congrArg Prod.snd hreceive).symm
        | datagram name payload => cases hreceive
      rw [hunchanged]
      exact (List.append_nil reports).symm ▸ h
  | some read =>
      obtain ⟨-, rfl⟩ := receive_some hreceive
      exact hkept.record h read.1 read.2 time

theorem Kept.turn (hkept : Kept holds) (h : holds watchdog reports) {time : Binary64}
    {arrival : Arrival} {shown : List Notice} {following : Watchdog}
    (hturn : Watch.turn maxAge time arrival watchdog = (shown, .ok following)) :
    holds following (reports ++ shown) := by
  obtain ⟨datagram, middle, hreceive, hdrop⟩ := turn_ok hturn
  have hmiddle := hkept.receive h hreceive
  rcases hdrop with ⟨age, -, rfl, rfl⟩ | ⟨-, -, rfl, rfl⟩
  · rw [← List.append_assoc]
    exact hkept.dropStale hmiddle age time
  · exact hmiddle

/-- What every turn keeps, a whole watch keeps that comes to its end. -/
theorem Kept.watches (hkept : Kept holds) (h : holds watchdog reports)
    (hwatches : Watches maxAge deadline receptions clock watchdog rounds final halt)
    (hhalt : halt = .deadline ∨ halt = .interrupted) :
    holds final (reports ++ rounds.flatten) := by
  -- the reports so far are not fixed: every round adds its own to them
  induction hwatches generalizing reports with
  | ended => exact (List.append_nil reports).symm ▸ h
  | interrupted => exact (List.append_nil reports).symm ▸ h
  | failed => rcases hhalt with hhalt | hhalt <;> cases hhalt
  | next _ hturn _ ih =>
      rw [List.flatten_cons, ← List.append_assoc]
      exact ih (hkept.turn h hturn) hhalt

end Kept

theorem arrived_of_turn {time : Binary64} {arrival : Arrival} {shown : List Notice}
    {outcome : Except Failure Watchdog}
    (hturn : turn maxAge time arrival watchdog = (shown, outcome)) {name : String}
    {payload : Payload} (hheard : .heard name payload ∈ shown) :
    ∃ whole, arrival = .datagram name whole ∧ payload = whole.take Watchdog.bufferLength := by
  obtain rfl : _ = shown := congrArg Prod.fst hturn
  rw [turn] at hheard
  rcases hreceive : watchdog.receive arrival time with ⟨fault | datagram, middle⟩
  · simp [hreceive] at hheard
  · rw [hreceive] at hheard
    obtain rfl : datagram = some (name, payload) := by
      cases datagram with
      | none => cases maxAge <;> simp at hheard
      | some read => cases maxAge <;> simpa [Prod.ext_iff, eq_comm] using hheard
    exact (receive_some hreceive).1

theorem Watches.arrived
    (h : Watches maxAge deadline receptions clock watchdog rounds final halt) {name : String}
    {payload : Payload} (hheard : .heard name payload ∈ rounds.flatten) :
    ∃ reception ∈ receptions, ∃ whole, reception.arrival = .datagram name whole ∧
      payload = whole.take Watchdog.bufferLength := by
  induction h with
  | ended => cases hheard
  | interrupted => cases hheard
  | failed _ hturn =>
      rw [List.flatten_singleton] at hheard
      exact ⟨_, List.mem_cons_self, arrived_of_turn hturn hheard⟩
  | next _ hturn _ ih =>
      rw [List.flatten_cons, List.mem_append] at hheard
      rcases hheard with hnow | hlater
      · exact ⟨_, List.mem_cons_self, arrived_of_turn hturn hnow⟩
      · obtain ⟨reception, hmem, harrived⟩ := ih hlater
        exact ⟨reception, List.mem_cons_of_mem _ hmem, harrived⟩

/-! ## The command -/

variable {arguments : List String} {options : Options} {traffic : Traffic}

/-- A watch that has come to its end, and what was written then. -/
structure Concludes (options : Options) (traffic : Traffic) (port : Int)
    (rounds : List (List Notice)) (final : Watchdog) (output : String) : Prop where
  watches : ∃ deadline halt, options.duration.deadline traffic.clock = .ok deadline ∧
    (halt = .deadline ∨ halt = .interrupted) ∧
    Watches options.maxAge deadline traffic.receptions traffic.clock {} rounds final halt
  output_eq : output = written (options.greeting port ::
    rounds.flatten.map (Notice.line options.verbose) ++ final.summaryLines)

/-- An accepted command line that exits with 0 has watched to the end. -/
theorem exists_concludes (hparse : Options.parse arguments = .ok options)
    (hexit : (rehearse arguments traffic).ending = .exit 0) :
    ∃ port rounds final,
      Concludes options traffic port rounds final (rehearse arguments traffic).output := by
  rw [rehearse, hparse] at hexit ⊢
  simp only [] at hexit ⊢
  rw [watch] at hexit ⊢
  split at hexit
  · cases hexit
  · cases hexit
  · next port events hopen =>
      split at hexit
      · cases hexit
      · next deadline hdeadline =>
          obtain ⟨rounds, final, halt, hwatches⟩ := exists_watches options.maxAge deadline
            traffic.receptions traffic.clock {}
          rw [Options.course, hwatches.course_eq] at hexit
          simp only [Options.course, hwatches.course_eq]
          refine ⟨port, rounds, final, ?_⟩
          cases halt with
          | failed => cases hexit
          | deadline => exact ⟨⟨deadline, _, hdeadline, .inl rfl, hwatches⟩, rfl⟩
          | interrupted => exact ⟨⟨deadline, _, hdeadline, .inr rfl, hwatches⟩, rfl⟩

end Heartbeat.Watch
