import Heartbeat.Proofs.SocketRelease
import Heartbeat.Proofs.WatchRounds

/-!
# The listener is released

A watch reads its listener until the deadline has passed, until it is interrupted, or until a read
fails. A read that finds nothing goes by without a consequence, and so does a fault that means no
more than that (`Breaks`); every other fault ends the watch at the read at which it occurs
(`Watches.exists_readsUpTo`). Whichever way the watch ends, the listener is closed then, and so it
is if binding it meets a fault.

What is missing is the way between the two. The command looks up its port before the listener is
bound and its duration before the watch begins, and if one of them was given without a value it ends
there and leaves the listener open. It does the same if the host and the port that it was given are
no address, which no fault tells (`NoAddress`). `LeavesOpen` has these three ways, and
`rehearse_releases` says that there is no fourth.
-/

namespace Heartbeat.Watch

/-! ## What ends a watch -/

/-- A read that yields this ends the watch: a fault does unless it means that nothing arrived, and a
heartbeat does if there is no maximal age to judge its node by. -/
inductive Breaks (maxAge : Option Binary64) : Arrival → Failure → Prop
  | fault {fault : Fault} (hfault : fault.meansNothingArrived = false) :
      Breaks maxAge (.failed fault) (.fault fault)
  | maxAgeVoid {node : String} {payload : Payload} (hvoid : maxAge = none) :
      Breaks maxAge (.datagram node payload) .maxAgeVoid

/-- The clock after these reads. -/
def clockAfter (clock : Binary64) (receptions : List Reception) : Binary64 :=
  receptions.foldl (fun clock reception => clock + reception.advance) clock

/-- What ends a watch that has made these reads. -/
inductive Ends (maxAge deadline : Option Binary64) (receptions : List Reception)
    (clock : Binary64) (done : List Reception) : Halt → Prop
  | deadline (hover : isOver deadline (clockAfter clock done) = true) :
      Ends maxAge deadline receptions clock done .deadline
  | interrupted (hgo : isOver deadline (clockAfter clock done) = false)
      (hall : done = receptions) : Ends maxAge deadline receptions clock done .interrupted
  | failed {reception : Reception} {failure : Failure}
      (hgo : isOver deadline (clockAfter clock done) = false)
      (hread : done ++ [reception] <+: receptions)
      (hbreaks : Breaks maxAge reception.arrival failure) :
      Ends maxAge deadline receptions clock done (.failed failure)

/-- A watch makes these reads, all of them in time and none of them a reason to end it. Then it ends
as told. -/
structure ReadsUpTo (maxAge deadline : Option Binary64) (receptions : List Reception)
    (clock : Binary64) (done : List Reception) (halt : Halt) : Prop where
  isPrefix : done <+: receptions
  inTime : ∀ front, front <+: done → front ≠ done →
    isOver deadline (clockAfter clock front) = false
  goesOn : ∀ reception ∈ done, ∀ failure, ¬ Breaks maxAge reception.arrival failure
  ends : Ends maxAge deadline receptions clock done halt

section Reads

variable {maxAge deadline : Option Binary64} {receptions rest : List Reception}
  {reception : Reception} {clock time : Binary64} {watchdog final : Watchdog} {arrival : Arrival}
  {rounds : List (List Notice)} {shown : List Notice} {halt : Halt}

theorem nodes_record_ne_nil (watchdog : Watchdog) (name : String) (payload : Payload)
    (time : Binary64) : (watchdog.record name payload time).nodes ≠ [] := by
  intro hnil
  have hfind := @Watchdog.find?_record watchdog name name payload time
  rw [if_pos rfl, Watchdog.find?, hnil] at hfind
  cases hfind

/-- Without a maximal age a watch that goes on knows no nodes. -/
def KnowsNone (maxAge : Option Binary64) (watchdog : Watchdog) : Prop :=
  maxAge = none → watchdog.nodes = []

/-- A turn fails only by a read that is a reason to end the watch. -/
theorem breaks_of_turn (hnone : KnowsNone maxAge watchdog) {failure : Failure}
    (hturn : turn maxAge time arrival watchdog = (shown, .error failure)) :
    Breaks maxAge arrival failure := by
  cases arrival with
  | nothing =>
      cases maxAge with
      | some age => cases hturn
      | none => simp [turn, Watchdog.receive, hnone rfl] at hturn
  | failed fault =>
      cases hfault : fault.meansNothingArrived with
      | true =>
          cases maxAge with
          | some age => simp [turn, Watchdog.receive, hfault] at hturn
          | none => simp [turn, Watchdog.receive, hfault, hnone rfl] at hturn
      | false =>
          simp only [turn, Watchdog.receive, hfault] at hturn
          cases hturn
          exact .fault hfault
  | datagram node payload =>
      cases maxAge with
      | some age => cases hturn
      | none =>
          rw [turn, Watchdog.receive] at hturn
          simp only [nodes_record_ne_nil, if_false] at hturn
          cases hturn
          exact .maxAgeVoid rfl

/-- A turn that goes well has not met a reason to end the watch. -/
theorem goesOn_of_turn {following : Watchdog}
    (hturn : turn maxAge time arrival watchdog = (shown, .ok following)) :
    KnowsNone maxAge following ∧ ∀ failure, ¬ Breaks maxAge arrival failure := by
  obtain ⟨datagram, middle, hreceive, hrest⟩ := turn_ok hturn
  constructor
  · rintro rfl
    rcases hrest with ⟨age, hage, -⟩ | ⟨-, hnodes, rfl, -⟩
    · cases hage
    · exact hnodes
  · intro failure hbreaks
    cases hbreaks with
    | fault hfault => simp [Watchdog.receive, hfault] at hreceive
    | maxAgeVoid hvoid =>
        subst hvoid
        rcases hrest with ⟨age, hage, -⟩ | ⟨-, hnodes, -, -⟩
        · cases hage
        · cases hreceive
          exact nodes_record_ne_nil _ _ _ _ hnodes

/-- One more read in front of the others. -/
theorem ReadsUpTo.cons {done : List Reception} (hgo : isOver deadline clock = false)
    (hread : ∀ failure, ¬ Breaks maxAge reception.arrival failure)
    (h : ReadsUpTo maxAge deadline rest (clock + reception.advance) done halt) :
    ReadsUpTo maxAge deadline (reception :: rest) clock (reception :: done) halt where
  isPrefix := List.cons_prefix_cons.mpr ⟨rfl, h.isPrefix⟩
  inTime := by
    intro front hfront hne
    rcases List.prefix_cons_iff.mp hfront with rfl | ⟨others, rfl, hothers⟩
    · exact hgo
    · exact h.inTime others hothers fun heq => hne (congrArg (reception :: ·) heq)
  goesOn := List.forall_mem_cons.mpr ⟨hread, h.goesOn⟩
  ends := by
    cases h.ends with
    | deadline hover => exact .deadline hover
    | interrupted hgo hall => exact .interrupted hgo (congrArg (reception :: ·) hall)
    | failed hgo hread hbreaks =>
        exact .failed hgo (List.cons_prefix_cons.mpr ⟨rfl, hread⟩) hbreaks

/-- A watch that ends at once has made no read that it goes on from. -/
theorem ReadsUpTo.nil (hends : Ends maxAge deadline receptions clock [] halt) :
    ReadsUpTo maxAge deadline receptions clock [] halt where
  isPrefix := List.nil_prefix
  inTime := by
    intro front hfront hne
    exact absurd (List.prefix_nil.mp hfront) hne
  goesOn := by
    intro reception hmem
    cases hmem
  ends := hends

/-- The rounds of a watch read up to the first reason to end it. -/
theorem Watches.exists_readsUpTo (hnone : KnowsNone maxAge watchdog)
    (h : Watches maxAge deadline receptions clock watchdog rounds final halt) :
    ∃ done, ReadsUpTo maxAge deadline receptions clock done halt := by
  induction h with
  | ended hover => exact ⟨[], .nil (.deadline hover)⟩
  | interrupted hgo => exact ⟨[], .nil (.interrupted hgo rfl)⟩
  | failed hgo hturn =>
      exact ⟨[], .nil (.failed hgo ⟨_, rfl⟩ (breaks_of_turn hnone hturn))⟩
  | next hgo hturn _ ih =>
      obtain ⟨hknows, hread⟩ := goesOn_of_turn hturn
      obtain ⟨done, hdone⟩ := ih hknows
      exact ⟨_, hdone.cons hgo hread⟩

end Reads

/-! ## What is no address -/

/-- The network has a name for this host. -/
def HasName (listener : ListenerScript) (host : String) : Prop :=
  listener.encodesHost = true ∨ ∀ c ∈ host.toList, c.toNat ≤ 127

/-- What is wrong with this host and this port, of which a socket makes no address. A port that is
no machine integer is refused at once, and any other that is out of range when the host has been
looked up. -/
inductive NoAddress (listener : ListenerScript) : Option String → Int → AddressError → Prop
  | hostVoid {port : Int} : NoAddress listener none port .hostVoid
  | hostNotEncoded {host : String} {port : Int} (hname : ¬ HasName listener host) :
      NoAddress listener (some host) port .hostNotEncoded
  | hostWithNull {host : String} {port : Int} (hname : HasName listener host)
      (hnull : '\x00' ∈ host.toList) : NoAddress listener (some host) port .hostWithNull
  | portOutOfRange {host : String} {port : Int} (hname : HasName listener host)
      (hnull : '\x00' ∉ host.toList)
      (hport : (port < -2147483648 ∨ 2147483647 < port) ∨
        listener.hostFault = none ∧ (port < 0 ∨ 65535 < port)) :
      NoAddress listener (some host) port .portOutOfRange

section Address

variable {listener : ListenerScript} {host : Option String} {name : String} {port : Int}
  {error : AddressError} {failure : Failure}

theorem hasName_iff :
    HasName listener name ↔
      (!listener.encodesHost && name.toList.any fun c => 127 < c.toNat) = false := by
  cases hencodes : listener.encodesHost <;> simp [HasName, hencodes]

theorem hostError?_of_hasName (hname : HasName listener name) :
    listener.hostError? (some name) =
      if '\x00' ∈ name.toList then some .hostWithNull else none := by
  rw [ListenerScript.hostError?, hasName_iff.mp hname]
  rfl

theorem hostError?_of_not_hasName (hname : ¬ HasName listener name) :
    listener.hostError? (some name) = some .hostNotEncoded := by
  rw [hasName_iff, Bool.not_eq_false] at hname
  rw [ListenerScript.hostError?, hname]
  rfl

theorem hostError?_eq_none_iff :
    listener.hostError? host = none ↔
      ∃ name, host = some name ∧ HasName listener name ∧ '\x00' ∉ name.toList := by
  cases host with
  | none => simp [ListenerScript.hostError?]
  | some name =>
      by_cases hname : HasName listener name
      · simp [hostError?_of_hasName hname, hname]
      · simp [hostError?_of_not_hasName hname, hname]

theorem noAddress_of_hostError? (h : listener.hostError? host = some error) :
    NoAddress listener host port error := by
  cases host with
  | none =>
      cases h
      exact .hostVoid
  | some name =>
      by_cases hname : HasName listener name
      · by_cases hnull : '\x00' ∈ name.toList
        · rw [hostError?_of_hasName hname, if_pos hnull] at h
          cases h
          exact .hostWithNull hname hnull
        · rw [hostError?_of_hasName hname, if_neg hnull] at h
          cases h
      · rw [hostError?_of_not_hasName hname] at h
        cases h
        exact .hostNotEncoded hname

/-- With a host that may be looked up only the port can be wrong. -/
theorem bindError?_of_host (hreal : listener.takesAnyAddress = false)
    (hhost : listener.hostError? host = none) :
    listener.bindError? host port = some (.address error) ↔
      ((port < -2147483648 ∨ 2147483647 < port) ∨
        listener.hostFault = none ∧ (port < 0 ∨ 65535 < port)) ∧ error = .portOutOfRange := by
  rw [ListenerScript.bindError?, hreal, hhost]
  by_cases hinteger : port < -2147483648 ∨ 2147483647 < port
  · simp only [hinteger]
    simp [eq_comm]
  · simp only [hinteger]
    cases listener.hostFault with
    | some fault => simp
    | none =>
        by_cases hrange : port < 0 ∨ 65535 < port
        · simp only [hrange]
          simp [eq_comm]
        · simp only [hrange]
          simp

/-- Host and port are no address just when a socket does not even try to be bound to them. -/
theorem bindError?_eq_address_iff :
    listener.bindError? host port = some (.address error) ↔
      listener.takesAnyAddress = false ∧ NoAddress listener host port error := by
  constructor
  · intro h
    have hreal : listener.takesAnyAddress = false := by
      rw [Bool.eq_false_iff]
      intro hany
      rw [ListenerScript.bindError?, hany] at h
      simp at h
    refine ⟨hreal, ?_⟩
    cases hhost : listener.hostError? host with
    | some found =>
        rw [ListenerScript.bindError?, hreal, hhost] at h
        cases h
        exact noAddress_of_hostError? hhost
    | none =>
        obtain ⟨hport, rfl⟩ := (bindError?_of_host hreal hhost).mp h
        obtain ⟨name, rfl, hname, hnull⟩ := hostError?_eq_none_iff.mp hhost
        exact .portOutOfRange hname hnull hport
  · intro h
    obtain ⟨hreal, herror⟩ := h
    cases herror with
    | hostVoid =>
        rw [ListenerScript.bindError?, hreal]
        rfl
    | hostNotEncoded hname =>
        rw [ListenerScript.bindError?, hreal, hostError?_of_not_hasName hname]
        rfl
    | hostWithNull hname hnull =>
        rw [ListenerScript.bindError?, hreal, hostError?_of_hasName hname, if_pos hnull]
        rfl
    | portOutOfRange hname hnull hport =>
        have hhost := (hostError?_of_hasName hname).trans (if_neg hnull)
        exact (bindError?_of_host hreal hhost).mpr ⟨hport, rfl⟩

/-- What keeps a socket from being bound is a fault, or that host and port are no address. -/
theorem bindError?_eq_some (h : listener.bindError? host port = some failure) :
    (∃ fault, failure = .fault fault) ∨ ∃ error, failure = .address error := by
  rw [ListenerScript.bindError?] at h
  split at h
  · obtain ⟨fault, -, rfl⟩ := Option.map_eq_some_iff.mp h
    exact .inl ⟨fault, rfl⟩
  · split at h
    · cases h
      exact .inr ⟨_, rfl⟩
    · split at h
      · cases h
        exact .inr ⟨_, rfl⟩
      · split at h
        · cases h
          exact .inl ⟨_, rfl⟩
        · split at h
          · cases h
            exact .inr ⟨_, rfl⟩
          · obtain ⟨fault, -, rfl⟩ := Option.map_eq_some_iff.mp h
            exact .inl ⟨fault, rfl⟩

end Address

/-! ## The command -/

/-- What a watch writes that takes this course after these lines, and how it ends. Only one that has
not failed writes the summary. -/
structure Tells (lines : List String) (course : Course) (report : Report Failure) : Prop where
  failed : ∀ failure, course.halt = .failed failure →
    report.ending = .escape failure ∧ report.output = written lines
  concluded : course.halt = .deadline ∨ course.halt = .interrupted →
    report.ending = .exit 0 ∧ report.output = written (lines ++ course.watchdog.summaryLines)
  errorOutput : report.errorOutput = ""

/-- A command line whose options are read and whose socket is created. -/
structure OpensListener (arguments : List String) (traffic : Traffic) (options : Options) :
    Prop where
  parse : Options.parse arguments = .ok options
  socket : traffic.listener.socketFault = none

/-- A command with these options, whose socket is open, fails in this way before it is ready to
watch, and nobody closes the socket. -/
inductive LeavesOpen (options : Options) (traffic : Traffic) : Failure → Prop
  | portVoid (hport : options.port = none) : LeavesOpen options traffic .portVoid
  | noAddress {port : Int} {error : AddressError} (hport : options.port = some port)
      (hreal : traffic.listener.takesAnyAddress = false)
      (herror : NoAddress traffic.listener options.host port error) :
      LeavesOpen options traffic (.address error)
  | durationVoid {port : Int} (hport : options.port = some port)
      (hbind : traffic.listener.bindError? options.host port = none)
      (hduration : options.duration = .void) : LeavesOpen options traffic .durationVoid

section Command

variable {arguments : List String} {options : Options} {traffic : Traffic} {port : Int}
  {fault : Fault} {error : AddressError} {failure : Failure} {events : List Event}
  {deadline : Option Binary64}

theorem watch_of_socketFault (h : traffic.listener.socketFault = some fault) :
    watch options traffic = ⟨.exit 1, "", written [options.bindFailure fault], []⟩ := by
  rw [watch, ListenerScript.openListener.eq_def, h]

theorem watch_of_portVoid (hsocket : traffic.listener.socketFault = none)
    (hport : options.port = none) :
    watch options traffic = ⟨.escape .portVoid, "", "", [.opened]⟩ := by
  rw [watch, ListenerScript.openListener.eq_def, hsocket, hport]

theorem watch_of_bindFault (hsocket : traffic.listener.socketFault = none)
    (hport : options.port = some port)
    (hbind : traffic.listener.bindError? options.host port = some (.fault fault)) :
    watch options traffic = ⟨.exit 1, "", written [options.bindFailure fault],
      [.opened, .bound options.host port, .closed]⟩ := by
  rw [watch, ListenerScript.openListener.eq_def, hsocket, hport]
  simp only [hbind]

theorem watch_of_noAddress (hsocket : traffic.listener.socketFault = none)
    (hport : options.port = some port)
    (hbind : traffic.listener.bindError? options.host port = some (.address error)) :
    watch options traffic =
      ⟨.escape (.address error), "", "", [.opened, .bound options.host port]⟩ := by
  rw [watch, ListenerScript.openListener.eq_def, hsocket, hport]
  simp only [hbind]

/-- The port that a listener is bound to that asks for this one. -/
def boundPort (traffic : Traffic) (port : Int) : Int :=
  if port = 0 then traffic.listener.freePort else port

theorem openListener_of_bound (hsocket : traffic.listener.socketFault = none)
    (hport : options.port = some port)
    (hbind : traffic.listener.bindError? options.host port = none) :
    traffic.listener.openListener options.host options.port (some readTimeout) =
      (.ok (boundPort traffic port),
        [.opened, .bound options.host port, .limited readTimeout]) := by
  rw [ListenerScript.openListener.eq_def, hsocket, hport]
  simp only [hbind]
  rfl

theorem watch_of_durationVoid
    (hopen : traffic.listener.openListener options.host options.port (some readTimeout) =
      (.ok port, events))
    (hduration : options.duration = .void) :
    watch options traffic = ⟨.escape .durationVoid, "", "", events⟩ := by
  rw [watch, hopen, hduration]
  rfl

theorem watch_of_deadline
    (hopen : traffic.listener.openListener options.host options.port (some readTimeout) =
      (.ok port, events))
    (hdeadline : options.duration.deadline traffic.clock = .ok deadline) :
    (watch options traffic).events = events ++ [.closed] ∧
      Tells (options.greeting port ::
          (options.course deadline traffic).notices.map (Notice.line options.verbose))
        (options.course deadline traffic) (watch options traffic) := by
  rw [watch, hopen]
  simp only [hdeadline]
  generalize options.course deadline traffic = course
  obtain ⟨notices, watchdog, halt⟩ := course
  cases halt with
  | failed failure =>
      refine ⟨rfl, fun failure' hfailed => ?_, fun hover => ?_, rfl⟩
      · cases hfailed
        exact ⟨rfl, rfl⟩
      · simp at hover
  | deadline | interrupted =>
      refine ⟨rfl, fun failure hfailed => ?_, fun _ => ⟨rfl, rfl⟩, rfl⟩
      cases hfailed

theorem exists_readsUpTo (options : Options) (deadline : Option Binary64) (traffic : Traffic) :
    ∃ done, ReadsUpTo options.maxAge deadline traffic.receptions traffic.clock done
      (options.course deadline traffic).halt := by
  obtain ⟨rounds, final, halt, hwatches⟩ := exists_watches options.maxAge deadline
    traffic.receptions traffic.clock {}
  rw [Options.course, hwatches.course_eq]
  exact hwatches.exists_readsUpTo fun _ => rfl

theorem exists_deadline (h : options.duration ≠ .void) (clock : Binary64) :
    ∃ deadline, options.duration.deadline clock = .ok deadline := by
  cases hduration : options.duration with
  | unlimited => exact ⟨none, rfl⟩
  | seconds duration => exact ⟨some (clock + duration), rfl⟩
  | void => exact absurd hduration h

/-- A listener that is never closed is not released. -/
theorem not_releasesSocket (hopened : .opened ∈ events) (hclosed : .closed ∉ events) :
    ¬ Log.ReleasesSocket events := by
  intro hreleases
  have hcount := (hreleases.closes hopened).1
  rw [List.count_eq_zero.mpr hclosed] at hcount
  cases hcount

theorem releasesSocket_of_enclosed (between : List Event)
    (h : ∀ event ∈ between, event.isSocket = false) :
    Log.ReleasesSocket (.opened :: (between ++ [.closed])) :=
  Log.Encloses.releasesSocket (.inr ⟨trivial, between, rfl, h⟩)

/-- What becomes of a listener that is bound, or fails to be, and is not left open. The watch makes
its reads up to the first reason to end it. -/
def Attends (options : Options) (traffic : Traffic) (port : Int) (report : Report Failure) : Prop :=
  match traffic.listener.bindError? options.host port with
  | some failure =>
    ∃ fault, failure = .fault fault ∧
      report = ⟨.exit 1, "", written [options.bindFailure fault],
        [.opened, .bound options.host port, .closed]⟩
  | none =>
    report.events = [.opened, .bound options.host port, .limited readTimeout, .closed] ∧
      ∃ deadline done, options.duration.deadline traffic.clock = .ok deadline ∧
        let course := options.course deadline traffic
        ReadsUpTo options.maxAge deadline traffic.receptions traffic.clock done course.halt ∧
          Tells (options.greeting (boundPort traffic port) ::
            course.notices.map (Notice.line options.verbose)) course report

theorem watch_attends (hsocket : traffic.listener.socketFault = none)
    (hclosed : ¬ ∃ failure, LeavesOpen options traffic failure) :
    ∃ port, options.port = some port ∧ Attends options traffic port (watch options traffic) := by
  obtain ⟨port, hport⟩ :=
    Option.ne_none_iff_exists'.mp fun hvoid => hclosed ⟨_, .portVoid hvoid⟩
  refine ⟨port, hport, ?_⟩
  rw [Attends]
  cases hbind : traffic.listener.bindError? options.host port with
  | some failure =>
      rcases bindError?_eq_some hbind with ⟨fault, rfl⟩ | ⟨error, rfl⟩
      · exact ⟨fault, rfl, watch_of_bindFault hsocket hport hbind⟩
      · obtain ⟨hreal, herror⟩ := bindError?_eq_address_iff.mp hbind
        exact absurd ⟨_, .noAddress hport hreal herror⟩ hclosed
  | none =>
      have hopen := openListener_of_bound hsocket hport hbind
      obtain ⟨deadline, hdeadline⟩ :=
        exists_deadline (fun hvoid => hclosed ⟨_, .durationVoid hport hbind hvoid⟩) traffic.clock
      obtain ⟨done, hdone⟩ := exists_readsUpTo options deadline traffic
      obtain ⟨hevents, htells⟩ := watch_of_deadline hopen hdeadline
      exact ⟨hevents, deadline, done, hdeadline, hdone, htells⟩

theorem Attends.releases {report : Report Failure} (h : Attends options traffic port report) :
    .opened ∈ report.events ∧ Log.ReleasesSocket report.events := by
  rw [Attends] at h
  split at h
  · obtain ⟨fault, -, rfl⟩ := h
    exact ⟨List.mem_cons_self,
      releasesSocket_of_enclosed [.bound options.host port] (by simp [Event.isSocket])⟩
  · rw [h.1]
    exact ⟨List.mem_cons_self, releasesSocket_of_enclosed
      [.bound options.host port, .limited readTimeout] (by simp [Event.isSocket])⟩

theorem watch_leavesOpen (hsocket : traffic.listener.socketFault = none)
    (hopen : LeavesOpen options traffic failure) :
    let report := watch options traffic
    report = ⟨.escape failure, "", "", report.events⟩ ∧
      .opened ∈ report.events ∧ .closed ∉ report.events := by
  intro report
  cases hopen with
  | portVoid hport =>
      have hreport : report = _ := watch_of_portVoid hsocket hport
      rw [hreport]
      exact ⟨rfl, List.mem_cons_self, by simp⟩
  | noAddress hport hreal herror =>
      have hbind := bindError?_eq_address_iff.mpr ⟨hreal, herror⟩
      have hreport : report = _ := watch_of_noAddress hsocket hport hbind
      rw [hreport]
      exact ⟨rfl, List.mem_cons_self, by simp⟩
  | durationVoid hport hbind hduration =>
      have hopen := openListener_of_bound hsocket hport hbind
      have hreport : report = _ := watch_of_durationVoid hopen hduration
      rw [hreport]
      exact ⟨rfl, List.mem_cons_self, by simp⟩

end Command

/-- Nothing happens to a listener of a command line that is refused, or whose socket cannot be
created. Every other is opened, and it is released, as the last thing that happens, just when the
command does not fail before it is ready to watch. Then its socket is either not bound because of a
fault, which is told in one message, or watched up to the first reason to end that. Otherwise the
command ends there, and writes nothing. -/
theorem rehearse_releases (arguments : List String) (traffic : Traffic) :
    let report := rehearse arguments traffic
    ((¬ ∃ options, OpensListener arguments traffic options) → report.events = []) ∧
      ∀ options, OpensListener arguments traffic options →
        .opened ∈ report.events ∧
        (Log.ReleasesSocket report.events ↔ ¬ ∃ failure, LeavesOpen options traffic failure) ∧
        ((¬ ∃ failure, LeavesOpen options traffic failure) →
          ∃ port, options.port = some port ∧ Attends options traffic port report) ∧
        ∀ failure, LeavesOpen options traffic failure →
          report = ⟨.escape failure, "", "", report.events⟩ := by
  intro report
  refine ⟨fun hnone => ?_, fun options hopens => ?_⟩
  · show (rehearse arguments traffic).events = []
    rw [rehearse]
    cases hparse : Options.parse arguments with
    | error refusal => rfl
    | ok options =>
        obtain ⟨fault, hsocket⟩ := Option.ne_none_iff_exists'.mp fun hsocket =>
          hnone ⟨options, hparse, hsocket⟩
        exact congrArg Report.events (watch_of_socketFault hsocket)
  · have hreport : report = watch options traffic := by
      show rehearse arguments traffic = _
      rw [rehearse, hopens.parse]
    rw [hreport]
    by_cases hopen : ∃ failure, LeavesOpen options traffic failure
    · obtain ⟨failure, hfails⟩ := hopen
      obtain ⟨hreport, hopened, hclosed⟩ := watch_leavesOpen hopens.socket hfails
      refine ⟨hopened, iff_of_false (not_releasesSocket hopened hclosed)
        (not_not_intro ⟨failure, hfails⟩), fun hnone => absurd ⟨failure, hfails⟩ hnone, ?_⟩
      intro other hother
      exact (watch_leavesOpen hopens.socket hother).1
    · obtain ⟨port, hport, hattends⟩ := watch_attends hopens.socket hopen
      obtain ⟨hopened, hreleases⟩ := hattends.releases
      exact ⟨hopened, iff_of_true hreleases hopen, fun _ => ⟨port, hport, hattends⟩,
        fun failure hfails => absurd ⟨failure, hfails⟩ hopen⟩

/-- A duration without a value is looked up when the listener is bound, and a port without one when
its socket is open. A port beyond the last is found out by the socket itself. No command closes
it. -/
theorem listener_left_open :
    rehearse ["--duration=--"] {} =
        ⟨.escape .durationVoid, "", "",
          [.opened, .bound (some "0.0.0.0") 5556, .limited readTimeout]⟩ ∧
      rehearse ["--port=--"] {} = ⟨.escape .portVoid, "", "", [.opened]⟩ ∧
      rehearse ["-p", "70000"] {} =
        ⟨.escape (.address .portOutOfRange), "", "", [.opened, .bound (some "0.0.0.0") 70000]⟩ ∧
      rehearse ["--bind=--"] {} =
        ⟨.escape (.address .hostVoid), "", "", [.opened, .bound none 5556]⟩ := by
  decide +kernel

end Heartbeat.Watch
