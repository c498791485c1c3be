import Mathlib.Algebra.BigOperators.Group.List.Lemmas
import Mathlib.Algebra.GroupWithZero.Nat
import Mathlib.Algebra.Order.BigOperators.Group.List
import Mathlib.Algebra.Order.Group.Nat
import Mathlib.Data.List.Dedup
import Heartbeat.Proofs.ArrivalWindow
import Heartbeat.Proofs.NodeReports

/-!
# Datagrams in the summary

The summary gives a number of datagrams for every node that it lists, and the number of all at its
end. The one is the length of a history and the other a counter. The history is there for the sake
of the gaps, begins again when a node has expired, and does not get longer than 1024: so the number
shown is that of the heartbeats since the node last expired, as far as that bound (`Counted`). The
numbers add up to the total of a watch without expiries just when none of them has reached past the
bound (`datagrams_of_summary`).
-/

namespace Heartbeat.Watch

open Watchdog

/-- The heartbeats of a node that are reported since it last expired. -/
def heardSinceExpiry (name : String) (reports : List Notice) : List Notice :=
  (reportsOn name reports).rtakeWhile Notice.isHeard

theorem heardSinceExpiry_heard (name other : String) (payload : Payload)
    (reports : List Notice) :
    heardSinceExpiry name (reports ++ [.heard other payload]) =
      if other = name then heardSinceExpiry name reports ++ [.heard other payload]
      else heardSinceExpiry name reports := by
  unfold heardSinceExpiry
  rw [reportsOn_append]
  by_cases hname : other = name
  · rw [if_pos hname, show reportsOn name [.heard other payload] = [.heard other payload] by
      simp [reportsOn, Notice.node, hname], List.rtakeWhile_concat_pos _ _ _ rfl]
  · rw [if_neg hname, show reportsOn name [.heard other payload] = [] by
      simp [reportsOn, Notice.node, hname], List.append_nil]

theorem heardSinceExpiry_expired {names : List String} (hnames : names.Nodup) (name : String)
    (reports : List Notice) :
    heardSinceExpiry name (reports ++ names.map .expired) =
      if name ∈ names then [] else heardSinceExpiry name reports := by
  unfold heardSinceExpiry
  rw [reportsOn_append, reportsOn_expired hnames]
  by_cases hmem : name ∈ names
  · rw [if_pos hmem, if_pos hmem, List.rtakeWhile_concat, if_neg (by simp [Notice.isHeard])]
  · rw [if_neg hmem, if_neg hmem, List.append_nil]

/-! ## The history is as long as the reports, up to its bound -/

/-- The watchdog remembers as many arrivals of a node as are reported since its last expiry, or the
most that it does remember. -/
structure Counted (watchdog : Watchdog) (reports : List Notice) : Prop where
  ordered : Ordered watchdog.nodes
  length_eq : ∀ name, (watchdog.arrivals name).length =
    min historyLength (heardSinceExpiry name reports).length

theorem counted_new : Counted {} [] where
  ordered := List.Pairwise.nil
  length_eq := by
    intro name
    show 0 = min historyLength 0
    omega

theorem Counted.record {watchdog : Watchdog} {reports : List Notice}
    (h : Counted watchdog reports) (name : String) (payload : Payload) (time : Binary64) :
    Counted (watchdog.record name payload time) (reports ++ [.heard name payload]) where
  ordered := h.ordered.enter
  length_eq := by
    intro other
    rw [arrivals_record, heardSinceExpiry_heard]
    by_cases hname : name = other
    · subst hname
      rw [if_pos rfl, if_pos rfl, length_recent, List.length_append, List.length_append,
        h.length_eq, List.length_singleton, List.length_singleton]
      omega
    · rw [if_neg (Ne.symm hname), if_neg hname, h.length_eq]

theorem Counted.dropStale {watchdog : Watchdog} {reports : List Notice}
    (h : Counted watchdog reports) (maxAge time : Binary64) :
    Counted (watchdog.dropStale maxAge time).2
      (reports ++ (watchdog.dropStale maxAge time).1.map .expired) where
  ordered := h.ordered.filter _
  length_eq := by
    intro name
    have hnodup : (watchdog.dropStale maxAge time).1.Nodup := (h.ordered.filter _).nodup_names
    rw [h.ordered.arrivals_dropStale, heardSinceExpiry_expired hnodup]
    by_cases hmem : name ∈ (watchdog.dropStale maxAge time).1
    · rw [if_pos hmem, if_pos hmem]
      exact (Nat.min_zero historyLength).symm
    · rw [if_neg hmem, if_neg hmem, h.length_eq]

theorem Counted.kept : Kept Counted := ⟨Counted.record, Counted.dropStale⟩

/-! ## Adding up -/

/-- Every report is on one node. -/
theorem sum_length_reportsOn {names : List String} (hnames : names.Nodup) {reports : List Notice}
    (hall : ∀ name, name ∈ names ↔ name ∈ reports.map Notice.node) :
    (names.map fun name => (reportsOn name reports).length).sum = reports.length := by
  have hperm : names.Perm (reports.map Notice.node).dedup := by
    rw [List.perm_ext_iff_of_nodup hnames (List.nodup_dedup _)]
    intro name
    rw [hall, List.mem_dedup]
  have hcount : ∀ name, (reportsOn name reports).length =
      (reports.map Notice.node).count name := by
    intro name
    rw [List.count, List.countP_map, List.countP_eq_length_filter, reportsOn]
    congr 2
  simp only [hcount]
  rw [(hperm.map _).sum_eq, List.sum_map_count_dedup_eq_length, List.length_map]

/-- Numbers cut at a bound add up to the same just when none of them is cut. -/
theorem sum_min_eq_iff {α : Type} (bound : Nat) (number : α → Nat) (list : List α) :
    (list.map fun entry => min bound (number entry)).sum = (list.map number).sum ↔
      ∀ entry ∈ list, number entry ≤ bound := by
  induction list with
  | nil => simp
  | cons first rest ih =>
      have hle : (rest.map fun entry => min bound (number entry)).sum ≤ (rest.map number).sum :=
        List.sum_le_sum fun entry _ => Nat.min_le_right _ _
      rw [List.map_cons, List.map_cons, List.sum_cons, List.sum_cons, List.forall_mem_cons, ← ih]
      omega

/-! ## A watch without expiries -/

section Unexpired

variable {reports : List Notice} (hnone : expiredCount reports = 0)

include hnone

theorem isHeard_of_unexpired {report : Notice} (hreport : report ∈ reports) :
    report.isHeard = true := by
  have hheard := List.countP_eq_zero.mp hnone report hreport
  simpa using hheard

theorem isHeard_of_mem_reportsOn {name : String} {report : Notice}
    (hreport : report ∈ reportsOn name reports) : report.isHeard = true :=
  isHeard_of_unexpired hnone (List.mem_of_mem_filter hreport)

theorem heardCount_of_unexpired : heardCount reports = reports.length := by
  have hlength := length_eq_counts reports
  omega

theorem heardCount_reportsOn (name : String) :
    heardCount (reportsOn name reports) = (reportsOn name reports).length :=
  List.countP_eq_length.mpr fun _ hreport => isHeard_of_mem_reportsOn hnone hreport

theorem heardSinceExpiry_of_unexpired (name : String) :
    heardSinceExpiry name reports = reportsOn name reports :=
  List.rtakeWhile_eq_self_iff.mpr fun _ hreport => isHeard_of_mem_reportsOn hnone hreport

/-- Every node that is reported is one whose last report is a heartbeat. -/
theorem endsHeard_iff_of_unexpired (name : String) :
    EndsHeard (reportsOn name reports) ↔ name ∈ reports.map Notice.node := by
  rw [List.mem_map]
  constructor
  · intro h
    obtain ⟨last, hlast, -⟩ := h
    have hmem := List.mem_filter.mp (List.mem_of_getLast? hlast)
    exact ⟨last, hmem.1, of_decide_eq_true hmem.2⟩
  · intro h
    obtain ⟨report, hreport, hname⟩ := h
    have hmem : report ∈ reportsOn name reports :=
      List.mem_filter.mpr ⟨hreport, decide_eq_true hname⟩
    have hsome := List.getLast?_eq_some_getLast (List.ne_nil_of_mem hmem)
    exact ⟨_, hsome, isHeard_of_mem_reportsOn hnone (List.mem_of_getLast? hsome)⟩

end Unexpired

/-! ## The summary -/

/-- How the summary of a watch counts datagrams. The nodes are listed each with its number, and the
total stands at the end. -/
structure CountsDatagrams (reports : List Notice) (final : Watchdog)
    (listed : List (String × Nat)) : Prop where
  summary : ∃ (gaps : String → String) (rest : String), final.summaryLines =
    listed.map (fun entry => entry.1 ++ ": " ++ toString entry.2 ++ " datagrams, " ++ gaps entry.1)
      ++ ["datagrams=" ++ toString (heardCount reports) ++ " nodes=" ++ rest]
  names : (listed.map Prod.fst).Pairwise (· < ·)
  mem_names : ∀ name, name ∈ listed.map Prod.fst ↔ EndsHeard (reportsOn name reports)
  /-- A number counts the heartbeats since the last expiry, up to the bound of the history. -/
  number_eq : ∀ entry ∈ listed, entry.2 = min 1024 (heardSinceExpiry entry.1 reports).length
  unexpired_number_eq : expiredCount reports = 0 → ∀ entry ∈ listed,
    entry.2 = min 1024 (heardCount (reportsOn entry.1 reports))
  unexpired_sum_heard : expiredCount reports = 0 →
    (listed.map fun entry => heardCount (reportsOn entry.1 reports)).sum = heardCount reports
  unexpired_sum_iff : expiredCount reports = 0 →
    ((listed.map Prod.snd).sum = heardCount reports ↔
      ∀ entry ∈ listed, heardCount (reportsOn entry.1 reports) ≤ 1024)

theorem nodeLine_eq (name : String) (statistics : Statistics) :
    ∃ gaps, nodeLine name statistics =
      name ++ ": " ++ toString statistics.count ++ " datagrams, " ++ gaps := by
  refine ⟨"gap mean " ++ seconds statistics.mean ++ " std " ++ seconds statistics.deviation ++
    " max " ++ seconds statistics.largest, ?_⟩
  have hword : " datagrams, gap mean " = " datagrams, " ++ "gap mean " := by decide
  simp only [nodeLine, hword, String.append_assoc]

theorem Reported.summaryLines_eq {watchdog : Watchdog} {reports : List Notice}
    (h : Reported watchdog reports) :
    ∃ (gaps : String → String) (rest : String), watchdog.summaryLines =
      (watchdog.nodes.map fun entry => (entry.1, (watchdog.arrivals entry.1).length)).map
        (fun entry => entry.1 ++ ": " ++ toString entry.2 ++ " datagrams, " ++ gaps entry.1)
      ++ ["datagrams=" ++ toString (heardCount reports) ++ " nodes=" ++ rest] := by
  have hlines := fun name => nodeLine_eq name (watchdog.statistics name)
  have hcount : ∀ name, (watchdog.statistics name).count = (watchdog.arrivals name).length :=
    fun name => (summarizes_ofArrivals _).count_eq
  have hdatagrams : watchdog.datagrams = heardCount reports := by
    rw [h.consistent.datagrams_eq, length_recordsOf]
  choose gaps hgaps using hlines
  refine ⟨gaps, toString watchdog.nodesSeen ++ " expired=" ++ toString watchdog.expired, ?_⟩
  rw [Watch.summaryLines_eq h.consistent.ordered, totalLine, hdatagrams, List.map_map, List.map_map]
  simp only [Function.comp_def, hgaps, hcount, String.append_assoc]

/-- The summary of a watch that has come to its end. -/
theorem countsDatagrams_of_kept {watchdog : Watchdog} {reports : List Notice}
    (hreported : Reported watchdog reports) (hcounted : Counted watchdog reports) :
    CountsDatagrams reports watchdog
      (watchdog.nodes.map fun entry => (entry.1, (watchdog.arrivals entry.1).length)) := by
  have hordered := hreported.consistent.ordered
  have hfst : (watchdog.nodes.map fun entry =>
      (entry.1, (watchdog.arrivals entry.1).length)).map Prod.fst =
        watchdog.nodes.map Prod.fst := by
    rw [List.map_map]
    rfl
  have hmem : ∀ name, name ∈ watchdog.nodes.map Prod.fst ↔
      EndsHeard (reportsOn name reports) := by
    intro name
    rw [← hreported.known name, Option.isSome_iff_exists]
    simp [find?, hordered.lookup_eq_some_iff]
  have hnumber : ∀ name, (watchdog.arrivals name).length =
      min 1024 (heardSinceExpiry name reports).length := hcounted.length_eq
  have hunexpired : expiredCount reports = 0 → ∀ name, (watchdog.arrivals name).length =
      min 1024 (heardCount (reportsOn name reports)) := by
    intro hnone name
    rw [hnumber, heardSinceExpiry_of_unexpired hnone, heardCount_reportsOn hnone]
  have hsum : expiredCount reports = 0 →
      ((watchdog.nodes.map Prod.fst).map fun name => heardCount (reportsOn name reports)).sum =
        heardCount reports := by
    intro hnone
    simp only [heardCount_reportsOn hnone]
    rw [heardCount_of_unexpired hnone]
    apply sum_length_reportsOn hordered.nodup_names
    intro name
    rw [hmem, endsHeard_iff_of_unexpired hnone]
  refine ⟨hreported.summaryLines_eq, ?_, ?_, ?_, ?_, ?_, ?_⟩
  · rw [hfst]
    exact hordered.names
  · rw [hfst]
    exact hmem
  · rw [List.forall_mem_map]
    exact fun entry _ => hnumber entry.1
  · intro hnone
    rw [List.forall_mem_map]
    exact fun entry _ => hunexpired hnone entry.1
  · intro hnone
    rw [← hsum hnone, List.map_map, List.map_map]
    rfl
  · intro hnone
    have hcut := sum_min_eq_iff 1024 (fun name => heardCount (reportsOn name reports))
      (watchdog.nodes.map Prod.fst)
    rw [hsum hnone, List.map_map, List.forall_mem_map] at hcut
    rw [List.map_map, List.forall_mem_map]
    simpa only [Function.comp_def, hunexpired hnone] using hcut

/-- The datagrams in the summary of a watch. The number shown for a node is that of the heartbeats
reported since its last expiry, but no more than 1024. Without expiries these are all heartbeats of
the node, and the numbers add up to the total exactly when no node has gone beyond. -/
theorem datagrams_of_summary {arguments : List String} {options : Options} {traffic : Traffic}
    (hparse : Options.parse arguments = .ok options)
    (hexit : (rehearse arguments traffic).ending = .exit 0) :
    ∃ port rounds final listed,
      Concludes options traffic port rounds final (rehearse arguments traffic).output ∧
      CountsDatagrams rounds.flatten final listed := by
  obtain ⟨port, rounds, final, hconcludes⟩ := exists_concludes hparse hexit
  obtain ⟨deadline, halt, -, hhalt, hwatches⟩ := hconcludes.watches
  have hreported : Reported final rounds.flatten := reported_new.watches hwatches hhalt
  have hcounted : Counted final rounds.flatten := Counted.kept.watches counted_new hwatches hhalt
  exact ⟨port, rounds, final, _, hconcludes, countsDatagrams_of_kept hreported hcounted⟩

/-- Two nodes are heard, one of them expires and is heard again. -/
theorem datagrams_of_summary_of_two :
    Options.parse ["--max-age", "2"] = .ok { maxAge := some 2 } ∧
      (rehearse ["--max-age", "2"] { receptions := [
        ⟨0, .datagram "b" []⟩, ⟨2, .datagram "a" []⟩, ⟨1, .nothing⟩,
        ⟨0, .datagram "b" []⟩] }).ending = .exit 0 ∧
      ∃ port rounds final listed,
        Concludes { maxAge := some 2 } { receptions := [
            ⟨0, .datagram "b" []⟩, ⟨2, .datagram "a" []⟩, ⟨1, .nothing⟩,
            ⟨0, .datagram "b" []⟩] } port rounds final
          (rehearse ["--max-age", "2"] { receptions := [
            ⟨0, .datagram "b" []⟩, ⟨2, .datagram "a" []⟩, ⟨1, .nothing⟩,
            ⟨0, .datagram "b" []⟩] }).output ∧
        CountsDatagrams rounds.flatten final listed := by
  have hparse : Options.parse ["--max-age", "2"] = .ok { maxAge := some 2 } := by decide +kernel
  have hexit : (rehearse ["--max-age", "2"] { receptions := [
      ⟨0, .datagram "b" []⟩, ⟨2, .datagram "a" []⟩, ⟨1, .nothing⟩,
      ⟨0, .datagram "b" []⟩] }).ending = .exit 0 := by decide +kernel
  exact ⟨hparse, hexit, datagrams_of_summary hparse hexit⟩

/-! ## A node that is heard too often

As long as only one node sends anything, and the clock stands still, nothing expires. -/

/-- No node is known but this one, and it was seen at this time. -/
def Alone (name : String) (clock : Binary64) (watchdog : Watchdog) : Prop :=
  ∀ entry ∈ watchdog.nodes, entry.1 = name ∧ entry.2.lastSeen = clock

section Alone

variable {name : String} {clock : Binary64} {watchdog : Watchdog}

theorem Alone.record (h : Alone name clock watchdog) (payload : Payload) :
    Alone name clock (watchdog.record name payload clock) := by
  intro entry hentry
  rcases mem_enter hentry with heq | hmem
  · rw [heq]
    exact ⟨rfl, rfl⟩
  · exact h entry hmem

theorem Alone.dropStale (h : Alone name clock watchdog) {age : Binary64} (hage : 0 ≤ age) :
    watchdog.dropStale age clock = ([], watchdog) := by
  have hfresh : ∀ entry ∈ watchdog.nodes, isStale age clock entry.2 = false := by
    intro entry hentry
    have hfresh := not_isStale_lastSeen hage entry.2
    rwa [(h entry hentry).2] at hfresh
  have hnone : watchdog.nodes.filter (fun entry => isStale age clock entry.2) = [] := by
    rw [List.filter_eq_nil_iff]
    intro entry hentry
    simp [hfresh entry hentry]
  have hall : watchdog.nodes.filter (fun entry => !isStale age clock entry.2) =
      watchdog.nodes := by
    rw [List.filter_eq_self]
    intro entry hentry
    simp [hfresh entry hentry]
  rw [Watchdog.dropStale, hnone, hall]
  rfl

theorem Alone.exists_watches (h : Alone name clock watchdog) {advance age : Binary64}
    (hstill : clock + advance = clock) (hage : 0 ≤ age) (count : Nat) :
    ∃ final, Watches (some age) none (List.replicate count ⟨advance, .datagram name []⟩) clock
      watchdog (List.replicate count [.heard name []]) final .interrupted := by
  induction count generalizing watchdog with
  | zero => exact ⟨watchdog, .interrupted rfl⟩
  | succ count ih =>
      obtain ⟨final, hrest⟩ := ih (h.record [])
      have hdrop := (h.record []).dropStale hage
      have hturn : turn (some age) (clock + advance) (.datagram name []) watchdog =
          ([.heard name []], .ok (watchdog.record name [] clock)) := by
        simp [turn, receive, hstill, hdrop]
      refine ⟨final, .next rfl hturn ?_⟩
      simpa only [hstill] using hrest

end Alone

/-- A node that is heard a number of times without a pause. -/
def burst (count : Nat) : Traffic :=
  { receptions := List.replicate count ⟨0, .datagram "10.0.0.1" []⟩ }

theorem reports_of_burst {count : Nat} {port : Int} {rounds : List (List Notice)}
    {final : Watchdog} {output : String} (h : Concludes {} (burst count) port rounds final output) :
    rounds.flatten = List.replicate count (.heard "10.0.0.1" []) := by
  obtain ⟨deadline, halt, hdeadline, -, hwatches⟩ := h.watches
  have hnone : deadline = none := by
    cases hdeadline
    rfl
  subst hnone
  have halone : Alone "10.0.0.1" 0 {} := by
    intro entry hentry
    cases hentry
  have hstill : (0 : Binary64) + 0 = 0 := by decide +kernel
  have hage : (0 : Binary64) ≤ 5 := by decide +kernel
  obtain ⟨other, hother⟩ := halone.exists_watches hstill hage count
  have hsame := congrArg Course.notices (hwatches.course_eq.symm.trans hother.course_eq)
  simpa using hsame

/-- No node has expired, and yet the numbers do not add up to the total: the only node that has been
heard is listed with one datagram less. -/
theorem datagrams_not_counted :
    (rehearse [] (burst 1025)).ending = .exit 0 ∧ ∃ port rounds final listed,
      Concludes {} (burst 1025) port rounds final (rehearse [] (burst 1025)).output ∧
      CountsDatagrams rounds.flatten final listed ∧ expiredCount rounds.flatten = 0 ∧
      ("10.0.0.1", 1024) ∈ listed ∧
      heardCount (reportsOn "10.0.0.1" rounds.flatten) = 1025 ∧
      (listed.map Prod.snd).sum ≠ heardCount rounds.flatten := by
  have hparse : Options.parse [] = .ok {} := by decide +kernel
  have hexit : (rehearse [] (burst 1025)).ending = .exit 0 := by decide +kernel
  obtain ⟨port, rounds, final, hconcludes⟩ := exists_concludes hparse hexit
  obtain ⟨deadline, halt, -, hhalt, hwatches⟩ := hconcludes.watches
  obtain ⟨listed, hcounts⟩ : ∃ listed, CountsDatagrams rounds.flatten final listed :=
    ⟨_, countsDatagrams_of_kept (reported_new.watches hwatches hhalt)
      (Counted.kept.watches counted_new hwatches hhalt)⟩
  have hreports := reports_of_burst hconcludes
  have hnone : expiredCount rounds.flatten = 0 := by
    rw [hreports, expiredCount, List.countP_replicate]
    rfl
  have hheard : heardCount (reportsOn "10.0.0.1" rounds.flatten) = 1025 := by
    rw [heardCount_reportsOn hnone, hreports, reportsOn, List.filter_replicate_of_pos rfl,
      List.length_replicate]
  have hlisted : "10.0.0.1" ∈ listed.map Prod.fst := by
    rw [hcounts.mem_names, endsHeard_iff_of_unexpired hnone, hreports, List.map_replicate]
    exact List.mem_replicate.mpr ⟨Nat.succ_ne_zero 1024, rfl⟩
  obtain ⟨entry, hentry, hname⟩ := List.mem_map.mp hlisted
  have hnumber := hcounts.unexpired_number_eq hnone entry hentry
  rw [hname, hheard] at hnumber
  refine ⟨hexit, port, rounds, final, listed, hconcludes, hcounts, hnone, ?_, hheard, ?_⟩
  · have heq : entry = ("10.0.0.1", 1024) := Prod.ext hname hnumber
    exact heq ▸ hentry
  · intro hsum
    have hcut := (hcounts.unexpired_sum_iff hnone).mp hsum entry hentry
    rw [hname, hheard] at hcut
    omega

end Heartbeat.Watch
