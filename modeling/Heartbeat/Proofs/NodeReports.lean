import Mathlib.Data.List.Chain
import Heartbeat.Proofs.NumberOrder
import Heartbeat.Proofs.WatchRounds

/-!
# Reports of heartbeats and expiries

While a watch goes on, what has been reported so far tells which nodes the watchdog knows: those
whose last report is a heartbeat (`Reported`). A heartbeat may follow anything, but a node expires
only while it is known, so that the reports on a node begin with a heartbeat and no two expiries
come in a row. Each round keeps this (`Reported.turn`), hence so does the whole watch
(`Reported.watches`), and the summary at its end can be read off the reports (`reports_in_order`).

A node that is heard in a round does not expire in the same round as long as no age is negative,
because the clock stands still between the two and the node is then no time old (`sub_self_cases`).
-/

namespace Heartbeat

namespace Binary64

/-- A number less itself is zero, unless it is not a number or an infinity. -/
theorem sub_self_cases (number : Binary64) : number - number = nan ∨ number - number = 0 := by
  have hzero : (0 : Binary64) = zero false := by decide +kernel
  cases number with
  | nan => exact .inl rfl
  | infinity negative => cases negative <;> exact .inl rfl
  | finite negative units fits =>
      refine .inr ?_
      have htotal : signed negative units + signed (!negative) units = 0 := by
        cases negative with
        | false => exact Int.add_right_neg _
        | true => exact Int.add_left_neg _
      show add (finite negative units fits) (neg (finite negative units fits)) = 0
      rw [hzero, neg, add]
      simp only [if_pos htotal, Bool.and_not_self]

end Binary64

namespace Watch

open Watchdog

/-! ## Reading reports -/

/-- Is this the report of a heartbeat? -/
def Notice.isHeard : Notice → Bool
  | heard .. => true
  | expired _ => false

/-- The node and the payload of a heartbeat that is reported. -/
def Notice.record? : Notice → Option (String × Payload)
  | heard node payload => some (node, payload)
  | expired _ => none

def reportsOn (name : String) (reports : List Notice) : List Notice :=
  reports.filter (·.node = name)

def heardCount (reports : List Notice) : Nat := reports.countP Notice.isHeard

def expiredCount (reports : List Notice) : Nat := reports.countP (!·.isHeard)

/-- The datagrams whose heartbeats are reported. -/
def recordsOf (reports : List Notice) : List (String × Payload) := reports.filterMap Notice.record?

/-- The reports on one node begin with a heartbeat, and of two in a row one is a heartbeat. -/
structure InOrder (reports : List Notice) : Prop where
  begins : ∀ first, reports.head? = some first → first.isHeard = true
  alternates : reports.IsChain fun earlier later =>
    earlier.isHeard = true ∨ later.isHeard = true

def EndsHeard (reports : List Notice) : Prop :=
  ∃ last, reports.getLast? = some last ∧ last.isHeard = true

section Reading

variable {reports : List Notice}

theorem reportsOn_append (name : String) (first rest : List Notice) :
    reportsOn name (first ++ rest) = reportsOn name first ++ reportsOn name rest :=
  List.filter_append ..

theorem expiredCount_append (first rest : List Notice) :
    expiredCount (first ++ rest) = expiredCount first + expiredCount rest :=
  List.countP_append

theorem recordsOf_append (first rest : List Notice) :
    recordsOf (first ++ rest) = recordsOf first ++ recordsOf rest :=
  List.filterMap_append

theorem reportsOn_expired {names : List String} (hnames : names.Nodup) (name : String) :
    reportsOn name (names.map .expired) = if name ∈ names then [.expired name] else [] := by
  induction names with
  | nil => rfl
  | cons first rest ih =>
      obtain ⟨hfirst, hrest⟩ := List.nodup_cons.mp hnames
      have hcons : reportsOn name ((first :: rest).map .expired) =
          reportsOn name [.expired first] ++ reportsOn name (rest.map .expired) :=
        reportsOn_append name [.expired first] _
      rw [hcons, ih hrest]
      by_cases hname : first = name
      · subst hname
        simp [reportsOn, Notice.node, hfirst]
      · simp [reportsOn, Notice.node, hname, Ne.symm hname]

theorem recordsOf_expired (names : List String) : recordsOf (names.map .expired) = [] := by
  simp [recordsOf, Notice.record?]

theorem expiredCount_expired (names : List String) :
    expiredCount (names.map .expired) = names.length := by
  rw [expiredCount, List.countP_map]
  exact List.countP_eq_length.mpr fun _ _ => rfl

theorem length_recordsOf (reports : List Notice) :
    (recordsOf reports).length = heardCount reports := by
  induction reports with
  | nil => rfl
  | cons report reports ih =>
      cases report with
      | heard =>
          rw [heardCount, List.countP_cons_of_pos rfl]
          exact congrArg (· + 1) ih
      | expired => exact ih

theorem length_eq_counts (reports : List Notice) :
    reports.length = heardCount reports + expiredCount reports := by
  simpa [heardCount, expiredCount] using
    List.length_eq_countP_add_countP Notice.isHeard (l := reports)

theorem endsHeard_append_singleton (reports : List Notice) (last : Notice) :
    EndsHeard (reports ++ [last]) ↔ last.isHeard = true := by
  simp [EndsHeard]

theorem InOrder.nil : InOrder [] := ⟨by simp, .nil⟩

/-- One more report leaves the order, if it is a heartbeat or follows one. -/
theorem InOrder.append_singleton (h : InOrder reports) {last : Notice}
    (hlast : last.isHeard = true ∨ EndsHeard reports) : InOrder (reports ++ [last]) where
  begins := by
    intro first hfirst
    cases reports with
    | nil =>
        obtain rfl : last = first := by simpa using hfirst
        rcases hlast with hheard | ⟨other, hother, -⟩
        · exact hheard
        · cases hother
    | cons report rest => exact h.begins first hfirst
  alternates := by
    rw [List.isChain_append]
    refine ⟨h.alternates, .singleton _, ?_⟩
    intro earlier hearlier later hlater
    obtain rfl : last = later := by simpa using hlater
    rcases hlast with hheard | ⟨other, hother, hheard⟩
    · exact .inr hheard
    · obtain rfl : other = earlier := Option.some.inj (hother.symm.trans hearlier)
      exact .inl hheard

/-- Whatever is reported on a node, a heartbeat of it is. -/
theorem InOrder.exists_heard {report : Notice}
    (h : InOrder (reportsOn report.node reports)) (hreport : report ∈ reports) :
    ∃ payload, .heard report.node payload ∈ reports := by
  have hmem : report ∈ reportsOn report.node reports := by simp [reportsOn, hreport]
  cases hreports : reportsOn report.node reports with
  | nil => rw [hreports] at hmem; cases hmem
  | cons first rest =>
      have hheard := h.begins first (by rw [hreports]; rfl)
      have hfirst : first ∈ reportsOn report.node reports := by simp [hreports]
      obtain ⟨hin, hnode⟩ : first ∈ reports ∧ first.node = report.node := by
        simpa [reportsOn] using hfirst
      cases first with
      | heard name payload => exact ⟨payload, hnode ▸ hin⟩
      | expired => cases hheard

end Reading

/-! ## What has been reported tells what is known -/

/-- The watchdog agrees with what has been reported. -/
structure Reported (watchdog : Watchdog) (reports : List Notice) : Prop where
  consistent : Consistent watchdog (recordsOf reports)
  expired_eq : watchdog.expired = expiredCount reports
  inOrder : ∀ name, InOrder (reportsOn name reports)
  known : ∀ name, (watchdog.find? name).isSome = true ↔ EndsHeard (reportsOn name reports)

theorem reported_new : Reported {} [] where
  consistent := consistent_new
  expired_eq := rfl
  inOrder := fun _ => InOrder.nil
  known := fun _ => iff_of_false (by simp [find?]) (by simp [EndsHeard, reportsOn])

namespace Reported

variable {watchdog : Watchdog} {reports : List Notice}

theorem record (h : Reported watchdog reports) (name : String) (payload : Payload)
    (time : Binary64) :
    Reported (watchdog.record name payload time) (reports ++ [.heard name payload]) where
  consistent := by
    rw [recordsOf_append]
    exact h.consistent.record name payload time
  expired_eq := by
    rw [expiredCount_append]
    exact h.expired_eq
  inOrder := by
    intro other
    rw [reportsOn_append]
    by_cases hname : name = other
    · rw [show reportsOn other [.heard name payload] = [.heard name payload] by
        simp [reportsOn, Notice.node, hname]]
      exact (h.inOrder other).append_singleton (.inl rfl)
    · rw [show reportsOn other [.heard name payload] = [] by
        simp [reportsOn, Notice.node, hname], List.append_nil]
      exact h.inOrder other
  known := by
    intro other
    rw [find?_record, reportsOn_append]
    by_cases hname : name = other
    · rw [show reportsOn other [.heard name payload] = [.heard name payload] by
        simp [reportsOn, Notice.node, hname], if_pos hname.symm]
      exact iff_of_true rfl ((endsHeard_append_singleton _ _).mpr rfl)
    · rw [show reportsOn other [.heard name payload] = [] by
        simp [reportsOn, Notice.node, hname], List.append_nil, if_neg (Ne.symm hname)]
      exact h.known other

theorem dropStale (h : Reported watchdog reports) (maxAge time : Binary64) :
    Reported (watchdog.dropStale maxAge time).2
      (reports ++ (watchdog.dropStale maxAge time).1.map .expired) := by
  have hordered := h.consistent.ordered
  -- a stale node is known, so that its last report is a heartbeat and one expiry may follow
  have hnodup : (watchdog.dropStale maxAge time).1.Nodup := (hordered.filter _).nodup_names
  have hexpired := reportsOn_expired hnodup
  have hstale (name : String) : name ∈ (watchdog.dropStale maxAge time).1 ↔
      ∃ node, watchdog.find? name = some node ∧ isStale maxAge time node = true :=
    hordered.mem_dropStale_iff maxAge time
  refine ⟨?_, ?_, ?_, ?_⟩
  · rw [recordsOf_append, recordsOf_expired, List.append_nil]
    exact h.consistent.dropStale maxAge time
  · rw [expiredCount_append, expiredCount_expired, ← h.expired_eq]
    exact congrArg (watchdog.expired + ·) (List.length_map _).symm
  · intro name
    rw [reportsOn_append, hexpired]
    split
    · next hmem =>
        obtain ⟨node, hfind, -⟩ := (hstale name).mp hmem
        refine (h.inOrder name).append_singleton (.inr ?_)
        exact (h.known name).mp (by simp [hfind])
    · rw [List.append_nil]
      exact h.inOrder name
  · intro name
    rw [reportsOn_append, hexpired, hordered.find?_dropStale]
    split
    · next hmem =>
        obtain ⟨node, hfind, hold⟩ := (hstale name).mp hmem
        rw [endsHeard_append_singleton, hfind, Option.filter_some, hold]
        simp [Notice.isHeard]
    · next hmem =>
        rw [List.append_nil, ← h.known name]
        cases hfind : watchdog.find? name with
        | none => simp
        | some node =>
            have hfresh : isStale maxAge time node = false := by
              rw [← Bool.not_eq_true]
              intro hold
              exact hmem ((hstale name).mpr ⟨node, hfind, hold⟩)
            simp [hfresh]

theorem kept : Kept Reported := ⟨record, dropStale⟩

theorem turn (h : Reported watchdog reports) {maxAge : Option Binary64} {time : Binary64}
    {arrival : Arrival} {shown : List Notice} {following : Watchdog}
    (hturn : Watch.turn maxAge time arrival watchdog = (shown, .ok following)) :
    Reported following (reports ++ shown) :=
  kept.turn h hturn

theorem watches (h : Reported watchdog reports) {maxAge deadline : Option Binary64}
    {receptions : List Reception} {clock : Binary64} {rounds : List (List Notice)}
    {final : Watchdog} {halt : Halt}
    (hwatches : Watches maxAge deadline receptions clock watchdog rounds final halt)
    (hhalt : halt = .deadline ∨ halt = .interrupted) :
    Reported final (reports ++ rounds.flatten) :=
  kept.watches h hwatches hhalt

theorem exists_heard {name : String} {node : Node} (h : Reported watchdog reports)
    (hentry : (name, node) ∈ watchdog.nodes) :
    ∃ payload, .heard name payload ∈ reports := by
  have hfind : watchdog.find? name = some node :=
    h.consistent.ordered.lookup_eq_some_iff.mpr hentry
  obtain ⟨last, hlast, -⟩ := (h.known name).mp (by simp [hfind])
  obtain ⟨hreport, rfl⟩ : last ∈ reports ∧ last.node = name := by
    simpa [reportsOn] using List.mem_of_getLast? hlast
  exact (h.inOrder last.node).exists_heard hreport

end Reported

/-! ## One round -/

/-- A node that was just heard is not stale, unless an age can be negative. -/
theorem not_isStale_lastSeen {maxAge : Binary64} (hage : 0 ≤ maxAge) (node : Node) :
    isStale maxAge node.lastSeen node = false := by
  apply decide_eq_false
  rcases Binary64.sub_self_cases node.lastSeen with hnan | hzero
  · rw [hnan]
    exact Binary64.not_lt_nan maxAge
  · rw [hzero]
    exact Binary64.not_lt_of_le hage

/-- A turn does not report a node as heard and as expired. -/
theorem not_expired_of_heard {watchdog following : Watchdog} (h : Ordered watchdog.nodes)
    {age time : Binary64} (hage : 0 ≤ age) {arrival : Arrival} {shown : List Notice}
    (hturn : turn (some age) time arrival watchdog = (shown, .ok following)) {name : String}
    {payload : Payload} (hheard : .heard name payload ∈ shown) : .expired name ∉ shown := by
  obtain ⟨datagram, middle, hreceive, ⟨other, hother, -, rfl⟩ | ⟨hnone, -⟩⟩ := turn_ok hturn
  · cases hother
    obtain rfl : datagram = some (name, payload) := by
      cases datagram with
      | none => simp [heardOf] at hheard
      | some read => simpa [heardOf, Prod.ext_iff, eq_comm] using hheard
    obtain ⟨-, rfl⟩ := receive_some hreceive
    intro hexpired
    have hmem : name ∈ ((watchdog.record name payload time).dropStale age time).1 := by
      simpa [heardOf] using hexpired
    obtain ⟨node, hfind, hold⟩ := (Ordered.mem_dropStale_iff h.enter age time).mp hmem
    -- it was recorded at this very time
    rw [find?_record, if_pos rfl] at hfind
    have hseen : time = node.lastSeen := congrArg Node.lastSeen (Option.some.inj hfind)
    rw [hseen, not_isStale_lastSeen hage node] at hold
    cases hold
  · cases hnone

theorem Watches.not_expired_of_heard {age clock : Binary64} {deadline : Option Binary64}
    {receptions : List Reception} {watchdog final : Watchdog} {rounds : List (List Notice)}
    {halt : Halt} {reports : List Notice} (hage : 0 ≤ age)
    (h : Watches (some age) deadline receptions clock watchdog rounds final halt)
    (hhalt : halt = .deadline ∨ halt = .interrupted) (hreported : Reported watchdog reports) :
    ∀ shown ∈ rounds, ∀ name payload, .heard name payload ∈ shown → .expired name ∉ shown := by
  induction h generalizing reports with
  | ended => simp
  | interrupted => simp
  | failed => rcases hhalt with hhalt | hhalt <;> cases hhalt
  | next _ hturn _ ih =>
      intro shown hshown name payload hheard
      rcases List.mem_cons.mp hshown with rfl | hlater
      · exact Watch.not_expired_of_heard hreported.consistent.ordered hage hturn hheard
      · exact ih hhalt (hreported.turn hturn) shown hlater name payload hheard

/-! ## The command -/

theorem summaryLines_eq {watchdog : Watchdog} (h : Ordered watchdog.nodes) :
    watchdog.summaryLines =
      (watchdog.nodes.map Prod.fst).map (fun name => nodeLine name (watchdog.statistics name)) ++
        [watchdog.totalLine] := by
  rw [summaryLines, List.map_map]
  congr 1
  apply List.map_congr_left
  rintro ⟨name, node⟩ hmem
  have hfind : watchdog.find? name = some node := h.lookup_eq_some_iff.mpr hmem
  simp [statistics, hfind]

/-- What the rounds of a watch report, and how its summary accounts for that. -/
structure Accounts (options : Options) (rounds : List (List Notice)) (final : Watchdog)
    (listed : List String) : Prop where
  inOrder : ∀ name, InOrder (reportsOn name rounds.flatten)
  sorted : listed.Pairwise (· < ·)
  mem_listed : ∀ name, name ∈ listed ↔ EndsHeard (reportsOn name rounds.flatten)
  summary : final.summaryLines =
    listed.map (fun name => nodeLine name (final.statistics name)) ++ [final.totalLine]
  datagrams : final.datagrams = heardCount rounds.flatten
  expired : final.expired = expiredCount rounds.flatten
  nodesSeen : final.nodesSeen = expiredCount rounds.flatten + listed.length
  apart : ∀ age, options.maxAge = some age → 0 ≤ age → ∀ shown ∈ rounds, ∀ name payload,
    .heard name payload ∈ shown → .expired name ∉ shown

/-- What the watching command reports. On every node a heartbeat comes first and no two expiries
come in a row; the summary lists the nodes whose last report is a heartbeat, in the order of their
names, and gives the counts of the reports; and as long as no age is negative, no round reports a
node as heard and as expired. -/
theorem reports_in_order {arguments : List String} {options : Options} {traffic : Traffic}
    (hparse : Options.parse arguments = .ok options)
    (hexit : (rehearse arguments traffic).ending = .exit 0) :
    ∃ port rounds final listed,
      Concludes options traffic port rounds final (rehearse arguments traffic).output ∧
      Accounts options rounds final listed := by
  obtain ⟨port, rounds, final, hconcludes⟩ := exists_concludes hparse hexit
  obtain ⟨deadline, halt, -, hhalt, hwatches⟩ := hconcludes.watches
  have hreported : Reported final rounds.flatten := reported_new.watches hwatches hhalt
  have hordered := hreported.consistent.ordered
  refine ⟨port, rounds, final, final.nodes.map Prod.fst, hconcludes, hreported.inOrder,
    hordered.names, ?_, summaryLines_eq hordered, ?_, hreported.expired_eq, ?_, ?_⟩
  · intro name
    rw [← hreported.known name, Option.isSome_iff_exists]
    simp [find?, hordered.lookup_eq_some_iff]
  · rw [hreported.consistent.datagrams_eq, length_recordsOf]
  · rw [hreported.consistent.nodesSeen_eq, hreported.expired_eq, List.length_map]
  · intro age hmaxAge hage
    rw [hmaxAge] at hwatches
    exact hwatches.not_expired_of_heard hage hhalt reported_new

/-- Two nodes are heard, one of them falls silent and is heard again after it has expired. -/
theorem reports_in_order_of_two :
    Options.parse ["--max-age", "2"] = .ok { maxAge := some 2 } ∧
      (rehearse ["--max-age", "2"] { receptions := [
        ⟨0, .datagram "b" [104, 105]⟩, ⟨2, .datagram "a" []⟩, ⟨1, .nothing⟩,
        ⟨0, .datagram "b" []⟩] }).ending = .exit 0 ∧
      ∃ port rounds final listed,
        Concludes { maxAge := some 2 } { receptions := [
            ⟨0, .datagram "b" [104, 105]⟩, ⟨2, .datagram "a" []⟩, ⟨1, .nothing⟩,
            ⟨0, .datagram "b" []⟩] } port rounds final
          (rehearse ["--max-age", "2"] { receptions := [
            ⟨0, .datagram "b" [104, 105]⟩, ⟨2, .datagram "a" []⟩, ⟨1, .nothing⟩,
            ⟨0, .datagram "b" []⟩] }).output ∧
        Accounts { maxAge := some 2 } rounds final listed := by
  have hparse : Options.parse ["--max-age", "2"] = .ok { maxAge := some 2 } := by decide +kernel
  have hexit : (rehearse ["--max-age", "2"] { receptions := [
      ⟨0, .datagram "b" [104, 105]⟩, ⟨2, .datagram "a" []⟩, ⟨1, .nothing⟩,
      ⟨0, .datagram "b" []⟩] }).ending = .exit 0 := by decide +kernel
  exact ⟨hparse, hexit, reports_in_order hparse hexit⟩

end Watch

end Heartbeat
