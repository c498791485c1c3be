import Heartbeat.Proofs.NumberOrder
import Heartbeat.Proofs.WatchdogTables

/-!
# Live nodes and silent ones

A node is live if it is not older than a maximal age, and it is dropped if it is older. The two are
asked by separate comparisons, so that they leave a gap: when the age is not a number, or the
maximal age is none, neither holds. Such a node is not reported as live and is kept all the same.
Every other node is on just one of the two sides (`mem_live_or_dropped_iff`), and dropping takes
away the one side and leaves the other as it was (`live_or_dropped`).

In the three tables the silent nodes are taken out one name after the other. What is gone then is
the same (`Tables.loses_dropStale`).
-/

namespace Heartbeat.Watchdog

/-- A watchdog from which these nodes have been taken, and nothing else. -/
structure Loses (names : List String) (watchdog rest : Watchdog) : Prop where
  find? : ∀ name, rest.find? name = if name ∈ names then none else watchdog.find? name
  expired : rest.expired = watchdog.expired + names.length
  datagrams : rest.datagrams = watchdog.datagrams
  nodesSeen : rest.nodesSeen = watchdog.nodesSeen

/-- Tables from which these nodes have been taken, and nothing else. -/
structure Tables.Loses (names : List String) (tables rest : Tables) : Prop where
  lastSeen : ∀ name,
    rest.lastSeen.lookup name = if name ∈ names then none else tables.lastSeen.lookup name
  payloads : ∀ name,
    rest.payloads.lookup name = if name ∈ names then none else tables.payloads.lookup name
  arrivals : ∀ name,
    rest.arrivals.lookup name = if name ∈ names then none else tables.arrivals.lookup name
  expired : rest.expired = tables.expired + names.length
  datagrams : rest.datagrams = tables.datagrams
  nodesSeen : rest.nodesSeen = tables.nodesSeen

variable {watchdog : Watchdog} {maxAge time : Binary64} {name : String} {node : Node}

theorem isStale_iff : isStale maxAge time node = true ↔ maxAge < time - node.lastSeen :=
  decide_eq_true_iff

theorem not_isStale_of_le (h : time - node.lastSeen ≤ maxAge) :
    isStale maxAge time node = false :=
  decide_eq_false (Binary64.not_lt_of_le h)

namespace Ordered

variable (h : Ordered watchdog.nodes)

include h

theorem pairwise_live (maxAge time : Binary64) : (watchdog.live maxAge time).Pairwise (· < ·) :=
  (h.filter _).names

theorem pairwise_dropped (maxAge time : Binary64) :
    (watchdog.dropStale maxAge time).1.Pairwise (· < ·) :=
  (h.filter _).names

/-- A known node is live by its age. -/
theorem mem_live_of_find? (hfind : watchdog.find? name = some node) :
    name ∈ watchdog.live maxAge time ↔ time - node.lastSeen ≤ maxAge := by
  rw [h.mem_live_iff, hfind]
  constructor
  · rintro ⟨_, heq, hle⟩
    cases heq
    exact hle
  · exact fun hle => ⟨node, rfl, hle⟩

/-- A known node is dropped by its age. -/
theorem mem_dropped_of_find? (hfind : watchdog.find? name = some node) :
    name ∈ (watchdog.dropStale maxAge time).1 ↔ maxAge < time - node.lastSeen := by
  rw [h.mem_dropStale_iff, hfind, ← isStale_iff]
  constructor
  · rintro ⟨_, heq, hstale⟩
    cases heq
    exact hstale
  · exact fun hstale => ⟨node, rfl, hstale⟩

theorem disjoint_live_dropped (maxAge time : Binary64) :
    (watchdog.live maxAge time).Disjoint (watchdog.dropStale maxAge time).1 := by
  intro name hlive hdropped
  obtain ⟨node, hfind, hle⟩ := (h.mem_live_iff maxAge time).mp hlive
  exact Binary64.not_lt_of_le hle ((h.mem_dropped_of_find? hfind).mp hdropped)

/-- The nodes on either side are those whose age can be compared with the maximal age. -/
theorem mem_live_or_dropped_iff :
    name ∈ watchdog.live maxAge time ∨ name ∈ (watchdog.dropStale maxAge time).1 ↔
      ∃ node, watchdog.find? name = some node ∧
        ¬ (time - node.lastSeen = .nan ∨ maxAge = .nan) := by
  simp only [← Binary64.not_le_and_not_lt_iff]
  constructor
  · rintro (hlive | hdropped)
    · obtain ⟨node, hfind, hle⟩ := (h.mem_live_iff maxAge time).mp hlive
      exact ⟨node, hfind, fun hneither => hneither.1 hle⟩
    · obtain ⟨node, hfind, hstale⟩ := (h.mem_dropStale_iff maxAge time).mp hdropped
      exact ⟨node, hfind, fun hneither => hneither.2 (isStale_iff.mp hstale)⟩
  · rintro ⟨node, hfind, hcomparable⟩
    rw [h.mem_live_of_find? hfind, h.mem_dropped_of_find? hfind]
    by_contra hneither
    exact hcomparable (not_or.mp hneither)

/-- Dropping takes the silent nodes away. -/
theorem loses_dropStale (maxAge time : Binary64) :
    watchdog.Loses (watchdog.dropStale maxAge time).1 (watchdog.dropStale maxAge time).2 where
  find? := by
    intro name
    rw [h.find?_dropStale]
    cases hfind : watchdog.find? name with
    | none => split <;> rfl
    | some node =>
        rw [if_congr (h.mem_dropped_of_find? hfind) rfl rfl, ← if_congr isStale_iff rfl rfl]
        cases hstale : isStale maxAge time node with
        | true => simp [hstale]
        | false => simp [hstale]
  expired := by
    rw [dropStale, List.length_map]
  datagrams := rfl
  nodesSeen := rfl

/-- A longer maximal age leaves no fewer nodes live. -/
theorem live_subset {wider : Binary64} (hle : maxAge ≤ wider) :
    watchdog.live maxAge time ⊆ watchdog.live wider time := by
  intro name hlive
  obtain ⟨node, hfind, hage⟩ := (h.mem_live_iff maxAge time).mp hlive
  exact (h.mem_live_of_find? hfind).mpr (Binary64.le_trans hage hle)

end Ordered

/-- Dropping leaves the live nodes as they are. -/
theorem live_dropStale (watchdog : Watchdog) (maxAge time : Binary64) :
    (watchdog.dropStale maxAge time).2.live maxAge time = watchdog.live maxAge time := by
  rw [live, live, dropStale, List.filter_filter]
  congr 1
  refine List.filter_congr fun entry _ => ?_
  by_cases hle : time - entry.2.lastSeen ≤ maxAge
  · simp [hle, not_isStale_of_le hle]
  · simp [hle]

/-- Nothing is left to be dropped afterwards. -/
theorem dropStale_dropStale (watchdog : Watchdog) (maxAge time : Binary64) :
    (watchdog.dropStale maxAge time).2.dropStale maxAge time =
      ([], (watchdog.dropStale maxAge time).2) := by
  have hnone : (watchdog.dropStale maxAge time).2.nodes.filter
      (fun entry => isStale maxAge time entry.2) = [] := by
    rw [dropStale, List.filter_filter, List.filter_eq_nil_iff]
    simp
  have hkept : (watchdog.dropStale maxAge time).2.nodes.filter
      (fun entry => !isStale maxAge time entry.2) = (watchdog.dropStale maxAge time).2.nodes := by
    rw [dropStale, List.filter_filter]
    simp
  generalize (watchdog.dropStale maxAge time).2 = rest at hnone hkept ⊢
  rw [dropStale, hnone, hkept]
  rfl

theorem Tables.loses_dropStale (tables : Tables) (maxAge time : Binary64) :
    tables.Loses (tables.dropStale maxAge time).1 (tables.dropStale maxAge time).2 := by
  obtain ⟨hdatagrams, hnodes, hexpired⟩ := counts_foldl_forget
    (tables.dropStale maxAge time).1 tables
  exact {
    lastSeen := lookup_foldl_forget Tables.lastSeen (fun _ _ => rfl) _ tables
    payloads := lookup_foldl_forget Tables.payloads (fun _ _ => rfl) _ tables
    arrivals := lookup_foldl_forget Tables.arrivals (fun _ _ => rfl) _ tables
    expired := hexpired
    datagrams := hdatagrams
    nodesSeen := hnodes }

/-- At every time and for every maximal age the known nodes fall into those that are live and those
that are dropped, apart from nodes of which neither can be said. Both are reported in order, no node
is on both sides, and dropping takes the one side away, in the list of nodes as in the three tables.
The other side is live as before, and to drop once more does nothing. -/
theorem live_or_dropped (clock : Binary64) (steps : List Step) (maxAge time : Binary64) :
    let watchdog := (Session.after { clock } steps).watchdog
    let tables := (TableSession.after { clock } steps).tables
    let live := watchdog.live maxAge time
    let dropped := (watchdog.dropStale maxAge time).1
    let rest := (watchdog.dropStale maxAge time).2
    (live.Pairwise (· < ·) ∧ dropped.Pairwise (· < ·) ∧ live.Disjoint dropped) ∧
      (∀ name, name ∈ live ∨ name ∈ dropped ↔ ∃ node, watchdog.find? name = some node ∧
        ¬ (time - node.lastSeen = .nan ∨ maxAge = .nan)) ∧
      (∀ name node, watchdog.find? name = some node →
        (name ∈ live ↔ time - node.lastSeen ≤ maxAge) ∧
        (name ∈ dropped ↔ maxAge < time - node.lastSeen)) ∧
      watchdog.Loses dropped rest ∧
      (tables.live maxAge time = live ∧ (tables.dropStale maxAge time).1 = dropped ∧
        tables.Loses dropped (tables.dropStale maxAge time).2) ∧
      rest.live maxAge time = live ∧
      rest.dropStale maxAge time = ([], rest) ∧
      ∀ wider, maxAge ≤ wider → live ⊆ watchdog.live wider time := by
  intro watchdog tables live dropped rest
  have hconsistent : Consistent ({ clock } : Session).watchdog [] := consistent_new
  have hordered : Ordered watchdog.nodes := (hconsistent.after steps).ordered
  have hnew : TableSession.Shows { clock } { clock } := ⟨Tables.shows_new, rfl⟩
  have hshows : tables.Shows watchdog := (hnew.transcript_eq hconsistent steps).2.tables
  have hdropped : (tables.dropStale maxAge time).1 = dropped :=
    (hshows.dropStale hordered maxAge time).1
  refine ⟨⟨hordered.pairwise_live _ _, hordered.pairwise_dropped _ _,
    hordered.disjoint_live_dropped _ _⟩, fun name => hordered.mem_live_or_dropped_iff,
    fun name node hfind => ⟨hordered.mem_live_of_find? hfind, hordered.mem_dropped_of_find? hfind⟩,
    hordered.loses_dropStale _ _, ⟨hshows.live_eq hordered _ _, hdropped, ?_⟩,
    live_dropStale _ _ _, dropStale_dropStale _ _ _, fun wider hle => hordered.live_subset hle⟩
  rw [← hdropped]
  exact tables.loses_dropStale maxAge time

end Heartbeat.Watchdog
