import Heartbeat.Proofs.WatchdogNodes
import Mathlib.Data.List.AList

/-!
# A watchdog kept in three tables

A watchdog may as well keep what it knows in three tables that are changed one after the other:
when a node was last seen, its payload, and its arrivals. Nothing in that form says that the
tables are about the same nodes, or that the history ends where the first table says.

Step by step the tables show what the list of nodes holds (`Tables.Shows.step`), so that a session
with tables gives the answers of a session with nodes (`TableSession.transcript_eq`), and what is
consistent in the one is so in the other (`tables_consistent`).
-/

namespace Heartbeat.Watchdog

/-- What is known about the nodes, in a table each, and the counts. -/
structure Tables where
  lastSeen : AList fun _ : String => Binary64 := ∅
  payloads : AList fun _ : String => Payload := ∅
  arrivals : AList fun _ : String => List Binary64 := ∅
  datagrams : Nat := 0
  nodesSeen : Nat := 0
  expired : Nat := 0

namespace Tables

def record (name : String) (payload : Payload) (time : Binary64) (tables : Tables) : Tables where
  lastSeen := tables.lastSeen.insert name time
  payloads := tables.payloads.insert name payload
  arrivals := tables.arrivals.insert name
    (recent ((tables.arrivals.lookup name).getD [] ++ [time]))
  datagrams := tables.datagrams + 1
  nodesSeen := tables.nodesSeen + if name ∈ tables.lastSeen then 0 else 1
  expired := tables.expired

def receive (arrival : Arrival) (time : Binary64) (tables : Tables) :
    Except Fault (Option (String × Payload)) × Tables :=
  match arrival with
  | .nothing => (.ok none, tables)
  | .failed fault => (if fault.meansNothingArrived then .ok none else .error fault, tables)
  | .datagram name payload =>
    let payload := payload.take bufferLength
    (.ok (some (name, payload)), tables.record name payload time)

/-- The names of the nodes whose last time is as asked, in order. -/
def namesWhere (wanted : Binary64 → Bool) (tables : Tables) : List String :=
  ((tables.lastSeen.entries.filter fun entry => wanted entry.2).map Sigma.fst).mergeSort

def live (maxAge time : Binary64) (tables : Tables) : List String :=
  tables.namesWhere fun lastSeen => time - lastSeen ≤ maxAge

/-- Take a node out of every table. -/
def forget (tables : Tables) (name : String) : Tables :=
  { tables with
    lastSeen := tables.lastSeen.erase name
    payloads := tables.payloads.erase name
    arrivals := tables.arrivals.erase name
    expired := tables.expired + 1 }

def dropStale (maxAge time : Binary64) (tables : Tables) : List String × Tables :=
  let stale := tables.namesWhere fun lastSeen => maxAge < time - lastSeen
  (stale, stale.foldl forget tables)

def statistics (name : String) (tables : Tables) : Statistics :=
  .ofArrivals ((tables.arrivals.lookup name).getD [])

end Tables

/-- Three tables and a clock. -/
structure TableSession where
  tables : Tables := {}
  clock : Binary64 := 0

namespace TableSession

/-- Take one step. -/
def step (session : TableSession) : Step → Answer × TableSession
  | .setClock time => (.done, { session with clock := time })
  | .record name payload time =>
    (.done, { session with
      tables := session.tables.record name payload (time.getD session.clock) })
  | .receive arrival =>
    let (result, tables) := session.tables.receive arrival session.clock
    let answer := match result with
      | .ok datagram => .received datagram
      | .error fault => .failed fault
    (answer, { session with tables })
  | .live maxAge time => (.names (session.tables.live maxAge (time.getD session.clock)), session)
  | .dropStale maxAge time =>
    let (names, tables) := session.tables.dropStale maxAge (time.getD session.clock)
    (.names names, { session with tables })
  | .statistics name => (.statistics (session.tables.statistics name), session)

def after (session : TableSession) (steps : List Step) : TableSession :=
  steps.foldl (fun session step => (session.step step).2) session

/-- The steps with their answers. -/
def transcript (session : TableSession) : List Step → List (Step × Answer)
  | [] => []
  | step :: steps => (step, (session.step step).1) :: transcript (session.step step).2 steps

end TableSession

/-! ## The tables show the nodes -/

namespace Tables

/-- The tables hold what the watchdog knows. -/
structure Shows (tables : Tables) (watchdog : Watchdog) : Prop where
  lastSeen : ∀ name, tables.lastSeen.lookup name = (watchdog.find? name).map Node.lastSeen
  payloads : ∀ name, tables.payloads.lookup name = (watchdog.find? name).map Node.lastPayload
  arrivals : ∀ name, tables.arrivals.lookup name = (watchdog.find? name).map Node.arrivals
  datagrams : tables.datagrams = watchdog.datagrams
  nodesSeen : tables.nodesSeen = watchdog.nodesSeen
  expired : tables.expired = watchdog.expired

variable {tables : Tables} {watchdog : Watchdog}

theorem lookup_insert {β : Type} (table : AList fun _ : String => β) (name other : String)
    (value : β) :
    (table.insert name value).lookup other = if other = name then some value
      else table.lookup other := by
  split
  · next heq =>
      subst heq
      exact AList.lookup_insert table
  · next hne => exact AList.lookup_insert_ne hne

theorem Shows.mem_lastSeen (h : tables.Shows watchdog) (name : String) :
    name ∈ tables.lastSeen ↔ (watchdog.find? name).isSome := by
  rw [← AList.lookup_isSome, h.lastSeen, Option.isSome_map]

theorem shows_new : Shows {} {} :=
  ⟨fun _ => rfl, fun _ => rfl, fun _ => rfl, rfl, rfl, rfl⟩

/-- What is entered in a table is found there as it is in the list of nodes. -/
theorem lookup_insert_record {β : Type} (value : Node → β) (table : AList fun _ : String => β)
    (htable : ∀ name, table.lookup name = (watchdog.find? name).map value) (name : String)
    (payload : Payload) (time : Binary64) (entered : β)
    (hentered : entered = value ⟨time, payload,
      recent (((watchdog.find? name).map Node.arrivals).getD [] ++ [time])⟩) (other : String) :
    (table.insert name entered).lookup other =
      ((watchdog.record name payload time).find? other).map value := by
  rw [find?_record, lookup_insert]
  split
  · rw [hentered, Option.map_some]
  · exact htable other

theorem Shows.record (h : tables.Shows watchdog) (name : String) (payload : Payload)
    (time : Binary64) :
    (tables.record name payload time).Shows (watchdog.record name payload time) where
  lastSeen := lookup_insert_record _ _ h.lastSeen _ _ _ _ rfl
  payloads := lookup_insert_record _ _ h.payloads _ _ _ _ rfl
  arrivals := lookup_insert_record _ _ h.arrivals _ _ _ _ (by rw [h.arrivals])
  datagrams := congrArg (· + 1) h.datagrams
  nodesSeen := by
    rw [nodesSeen_record, ← h.nodesSeen]
    show tables.nodesSeen + (if name ∈ tables.lastSeen then 0 else 1) = _
    rw [if_congr (h.mem_lastSeen name) rfl rfl]
  expired := h.expired

theorem nodup_namesWhere (tables : Tables) (wanted : Binary64 → Bool) :
    (tables.namesWhere wanted).Nodup := by
  rw [namesWhere, (List.mergeSort_perm _ _).nodup_iff]
  exact tables.lastSeen.keys_nodup.sublist (List.filter_sublist.map Sigma.fst)

theorem ordered_namesWhere (tables : Tables) (wanted : Binary64 → Bool) :
    (tables.namesWhere wanted).Pairwise (· ≤ ·) := by
  have hsorted := @List.pairwise_mergeSort String (fun first second => first ≤ second)
    (by simpa using fun _ _ _ => String.le_trans) (by simpa using String.le_total)
    ((tables.lastSeen.entries.filter fun entry => wanted entry.2).map Sigma.fst)
  simpa only [namesWhere, decide_eq_true_eq] using hsorted

theorem mem_namesWhere {wanted : Binary64 → Bool} {name : String} :
    name ∈ tables.namesWhere wanted ↔
      ∃ time, tables.lastSeen.lookup name = some time ∧ wanted time = true := by
  rw [namesWhere, List.mem_mergeSort, List.mem_map]
  constructor
  · rintro ⟨⟨found, time⟩, hentry, rfl⟩
    obtain ⟨hmem, hwanted⟩ := List.mem_filter.mp hentry
    exact ⟨time, AList.mem_lookup_iff.mpr hmem, hwanted⟩
  · rintro ⟨time, hlookup, hwanted⟩
    exact ⟨⟨name, time⟩, List.mem_filter.mpr ⟨AList.mem_lookup_iff.mp hlookup, hwanted⟩, rfl⟩

/-- Names that are found by their last time are the same in the table and in the list. -/
theorem Shows.namesWhere_eq (h : tables.Shows watchdog) (hordered : Ordered watchdog.nodes)
    (wanted : Binary64 → Bool) :
    tables.namesWhere wanted =
      (watchdog.nodes.filter fun entry => wanted entry.2.lastSeen).map Prod.fst := by
  have hkept : Ordered (watchdog.nodes.filter fun entry => wanted entry.2.lastSeen) :=
    hordered.filter _
  have hmem : ∀ name, name ∈ tables.namesWhere wanted ↔
      name ∈ (watchdog.nodes.filter fun entry => wanted entry.2.lastSeen).map Prod.fst := by
    intro name
    rw [mem_namesWhere, h.lastSeen, hordered.mem_names_iff fun node => wanted node.lastSeen]
    simp
  refine List.Perm.eq_of_pairwise (fun _ _ _ _ => String.le_antisymm)
    (tables.ordered_namesWhere wanted) ?_ ?_
  · exact hkept.names.imp fun hlt => String.not_lt.mp (String.lt_asymm hlt)
  · exact (List.perm_ext_iff_of_nodup (tables.nodup_namesWhere wanted) hkept.nodup_names).mpr hmem

/-! Forgetting names one after the other takes out just those. -/

theorem lookup_erase {β : Type} (table : AList fun _ : String => β) (name other : String) :
    (table.erase name).lookup other = if other = name then none else table.lookup other := by
  split
  · next heq =>
      subst heq
      exact AList.lookup_erase _ _
  · next hne => exact AList.lookup_erase_ne hne

/-- What is found in a table after names have been taken out of it. -/
theorem lookup_foldl_forget {β : Type} (table : Tables → AList fun _ : String => β)
    (herase : ∀ tables name, table (forget tables name) = (table tables).erase name)
    (names : List String) (tables : Tables) (other : String) :
    (table (names.foldl forget tables)).lookup other =
      if other ∈ names then none else (table tables).lookup other := by
  induction names generalizing tables with
  | nil => simp
  | cons name names ih =>
      rw [List.foldl_cons, ih, herase, lookup_erase]
      by_cases hmem : other ∈ names
      · rw [if_pos hmem, if_pos (List.mem_cons_of_mem _ hmem)]
      · rw [if_neg hmem]
        by_cases hname : other = name
        · rw [if_pos hname, if_pos (hname ▸ List.mem_cons_self)]
        · rw [if_neg hname, if_neg (by simp [hname, hmem])]

theorem counts_foldl_forget (names : List String) (tables : Tables) :
    (names.foldl forget tables).datagrams = tables.datagrams ∧
      (names.foldl forget tables).nodesSeen = tables.nodesSeen ∧
      (names.foldl forget tables).expired = tables.expired + names.length := by
  induction names generalizing tables with
  | nil => exact ⟨rfl, rfl, rfl⟩
  | cons name names ih =>
      obtain ⟨hdatagrams, hnodes, hexpired⟩ := ih (forget tables name)
      refine ⟨hdatagrams, hnodes, hexpired.trans ?_⟩
      show tables.expired + 1 + names.length = _
      rw [List.length_cons]
      omega

theorem Shows.dropStale (h : tables.Shows watchdog) (hordered : Ordered watchdog.nodes)
    (maxAge time : Binary64) :
    (tables.dropStale maxAge time).1 = (watchdog.dropStale maxAge time).1 ∧
      (tables.dropStale maxAge time).2.Shows (watchdog.dropStale maxAge time).2 := by
  have hstale := h.namesWhere_eq hordered fun lastSeen => maxAge < time - lastSeen
  refine ⟨hstale, ?_⟩
  obtain ⟨hdatagrams, hnodes, hexpired⟩ := counts_foldl_forget
    (tables.namesWhere fun lastSeen => maxAge < time - lastSeen) tables
  -- a name is taken out just when the node found under it is dropped
  have hlookup : ∀ (β : Type) (value : Node → β) (table : Tables → AList fun _ : String => β),
      (∀ tables name, table (forget tables name) = (table tables).erase name) →
      (∀ name, (table tables).lookup name = (watchdog.find? name).map value) → ∀ name,
      (table (tables.dropStale maxAge time).2).lookup name =
        ((watchdog.dropStale maxAge time).2.find? name).map value := by
    intro β value table herase htable name
    have hmem : name ∈ (tables.namesWhere fun lastSeen => maxAge < time - lastSeen) ↔
        ∃ node, watchdog.find? name = some node ∧ isStale maxAge time node = true := by
      rw [mem_namesWhere, h.lastSeen]
      simp [isStale]
    refine (lookup_foldl_forget table herase _ tables name).trans ?_
    rw [hordered.find?_dropStale, htable]
    cases hfind : watchdog.find? name with
    | none =>
        split
        · rfl
        · rfl
    | some node =>
        rw [hfind] at hmem
        rw [Option.filter_some, Option.map_some]
        cases hisStale : isStale maxAge time node with
        | true => rw [if_pos (hmem.mpr ⟨node, rfl, hisStale⟩)]; rfl
        | false =>
            have hkept : ¬ ∃ other, some node = some other ∧
                isStale maxAge time other = true := by
              rintro ⟨other, heq, hother⟩
              cases heq
              rw [hisStale] at hother
              cases hother
            rw [if_neg (hkept ∘ hmem.mp)]
            rfl
  exact {
    lastSeen := hlookup _ _ Tables.lastSeen (fun _ _ => rfl) h.lastSeen
    payloads := hlookup _ _ Tables.payloads (fun _ _ => rfl) h.payloads
    arrivals := hlookup _ _ Tables.arrivals (fun _ _ => rfl) h.arrivals
    datagrams := hdatagrams.trans h.datagrams
    nodesSeen := hnodes.trans h.nodesSeen
    expired := by
      refine hexpired.trans ?_
      rw [hstale, h.expired, List.length_map]
      rfl }

theorem Shows.live_eq (h : tables.Shows watchdog) (hordered : Ordered watchdog.nodes)
    (maxAge time : Binary64) : tables.live maxAge time = watchdog.live maxAge time :=
  h.namesWhere_eq hordered _

theorem Shows.statistics_eq (h : tables.Shows watchdog) (name : String) :
    tables.statistics name = watchdog.statistics name := by
  rw [statistics, h.arrivals, Watchdog.statistics]

end Tables

/-! ## Sessions -/

/-- A session with tables shows one with nodes at the same clock. -/
structure TableSession.Shows (shown : TableSession) (session : Session) : Prop where
  tables : shown.tables.Shows session.watchdog
  clock : shown.clock = session.clock

variable {shown : TableSession} {session : Session}

/-- A step gives the same answer in tables and in nodes, and the tables show the nodes again. -/
theorem TableSession.Shows.step (h : shown.Shows session)
    (hordered : Ordered session.watchdog.nodes) (step : Step) :
    (shown.step step).1 = (session.step step).1 ∧
      (shown.step step).2.Shows (session.step step).2 := by
  have hclock := h.clock
  cases step with
  | setClock time => exact ⟨rfl, h.tables, rfl⟩
  | record name payload time =>
      refine ⟨rfl, ?_, h.clock⟩
      show Tables.Shows (shown.tables.record name payload (time.getD shown.clock)) _
      rw [hclock]
      exact h.tables.record name payload _
  | receive arrival =>
      cases arrival with
      | nothing => exact ⟨rfl, h.tables, h.clock⟩
      | failed fault => exact ⟨rfl, h.tables, h.clock⟩
      | datagram name payload =>
          refine ⟨rfl, ?_, h.clock⟩
          show Tables.Shows (shown.tables.record name (payload.take bufferLength) shown.clock) _
          rw [hclock]
          exact h.tables.record name _ _
  | live maxAge time =>
      refine ⟨?_, h⟩
      show Answer.names (shown.tables.live maxAge (time.getD shown.clock)) = _
      rw [hclock, h.tables.live_eq hordered]
      rfl
  | dropStale maxAge time =>
      have hdrop := h.tables.dropStale hordered maxAge (time.getD session.clock)
      rw [← hclock] at hdrop
      refine ⟨?_, ?_, h.clock⟩
      · show Answer.names (shown.tables.dropStale maxAge (time.getD shown.clock)).1 = _
        rw [hdrop.1, hclock]
        rfl
      · show Tables.Shows (shown.tables.dropStale maxAge (time.getD shown.clock)).2 _
        rw [hclock] at hdrop ⊢
        exact hdrop.2
  | statistics name =>
      refine ⟨?_, h⟩
      show Answer.statistics (shown.tables.statistics name) = _
      rw [h.tables.statistics_eq]
      rfl

/-- A whole session gives the same answers in tables and in nodes. -/
theorem TableSession.Shows.transcript_eq (h : shown.Shows session)
    {records : List (String × Payload)} (hconsistent : Consistent session.watchdog records)
    (steps : List Step) :
    shown.transcript steps = session.transcript steps ∧
      (shown.after steps).Shows (session.after steps) := by
  induction steps generalizing shown session records with
  | nil => exact ⟨rfl, h⟩
  | cons step steps ih =>
      obtain ⟨hanswer, hnext⟩ := h.step hconsistent.ordered step
      obtain ⟨htranscript, hafter⟩ := ih hnext (hconsistent.step step)
      refine ⟨?_, hafter⟩
      rw [TableSession.transcript, Session.transcript, hanswer, htranscript]

/-! ## The invariant of the tables -/

/-- The tables agree with each other and with what was recorded. -/
structure Tables.Consistent (tables : Tables) (records : List (String × Payload)) : Prop where
  payload_nodes : ∀ name, name ∈ tables.payloads ↔ name ∈ tables.lastSeen
  arrival_nodes : ∀ name, name ∈ tables.arrivals ↔ name ∈ tables.lastSeen
  history : ∀ name times, tables.arrivals.lookup name = some times →
    times ≠ [] ∧ times.length ≤ historyLength ∧ times.getLast? = tables.lastSeen.lookup name
  payload : ∀ name payload, tables.payloads.lookup name = some payload →
    latest? records name = some payload
  nodesSeen_eq : tables.nodesSeen = tables.expired + tables.lastSeen.keys.length
  nodesSeen_le : tables.nodesSeen ≤ tables.datagrams
  datagrams_eq : tables.datagrams = records.length

theorem Tables.Shows.length_keys {tables : Tables} {watchdog : Watchdog}
    (h : tables.Shows watchdog) (hordered : Ordered watchdog.nodes) :
    tables.lastSeen.keys.length = watchdog.nodes.length := by
  have hall := congrArg List.length (h.namesWhere_eq hordered fun _ => true)
  rw [namesWhere, List.length_mergeSort, List.filter_true, List.filter_true, List.length_map,
    List.length_map] at hall
  rw [← hall, AList.keys, List.keys, List.length_map]

theorem Tables.Shows.consistent {tables : Tables} {watchdog : Watchdog}
    {records : List (String × Payload)} (h : tables.Shows watchdog)
    (hconsistent : Watchdog.Consistent watchdog records) : tables.Consistent records where
  payload_nodes := by
    intro name
    rw [h.mem_lastSeen, ← AList.lookup_isSome, h.payloads, Option.isSome_map]
  arrival_nodes := by
    intro name
    rw [h.mem_lastSeen, ← AList.lookup_isSome, h.arrivals, Option.isSome_map]
  history := by
    intro name times hlookup
    rw [h.arrivals] at hlookup
    obtain ⟨node, hfind, rfl⟩ := Option.map_eq_some_iff.mp hlookup
    obtain ⟨hlength, hlast⟩ := hconsistent.history name node hfind
    refine ⟨?_, hlength, ?_⟩
    · intro hnil
      rw [hnil] at hlast
      cases hlast
    · rw [hlast, h.lastSeen, hfind, Option.map_some]
  payload := by
    intro name payload hlookup
    rw [h.payloads] at hlookup
    obtain ⟨node, hfind, rfl⟩ := Option.map_eq_some_iff.mp hlookup
    exact hconsistent.payload name node hfind
  nodesSeen_eq := by
    rw [h.nodesSeen, h.expired, h.length_keys hconsistent.ordered]
    exact hconsistent.nodesSeen_eq
  nodesSeen_le := by
    rw [h.nodesSeen, h.datagrams]
    exact hconsistent.nodesSeen_le
  datagrams_eq := h.datagrams.trans hconsistent.datagrams_eq

/-- A receive that yields no datagram leaves what is known and the clock alone. -/
theorem receive_unchanged (session : Session) (shown : TableSession) (arrival : Arrival)
    (hnone : ∀ datagram, (session.step (.receive arrival)).1 ≠ .received (some datagram)) :
    (session.step (.receive arrival)).2 = session ∧
      (shown.step (.receive arrival)).2 = shown := by
  cases arrival with
  | nothing => exact ⟨rfl, rfl⟩
  | failed fault => exact ⟨rfl, rfl⟩
  | datagram name payload => exact absurd rfl (hnone _)

/-- A session of a new watchdog may be kept in three tables: every step gets the same answer, and
the tables hold what the watchdog knows. They are always about the same nodes and agree with all
that was recorded, and a receive that yields no datagram changes nothing. -/
theorem tables_consistent (clock : Binary64) (steps : List Step) :
    let session := Session.after { clock } steps
    let shown := TableSession.after { clock } steps
    let records := records (Session.transcript { clock } steps)
    TableSession.transcript { clock } steps = Session.transcript { clock } steps ∧
      shown.tables.Shows session.watchdog ∧
      shown.tables.Consistent records ∧ Consistent session.watchdog records ∧
      ∀ arrival,
        (∀ datagram, (session.step (.receive arrival)).1 ≠ .received (some datagram)) →
        (session.step (.receive arrival)).2 = session ∧
          (shown.step (.receive arrival)).2 = shown := by
  have hnew : TableSession.Shows { clock } { clock } := ⟨Tables.shows_new, rfl⟩
  have hconsistent : Consistent ({ clock } : Session).watchdog [] := consistent_new
  obtain ⟨htranscript, hafter⟩ := hnew.transcript_eq hconsistent steps
  refine ⟨htranscript, hafter.tables, hafter.tables.consistent (hconsistent.after steps),
    hconsistent.after steps, ?_⟩
  intro arrival hnone
  exact receive_unchanged _ _ arrival hnone

end Heartbeat.Watchdog
