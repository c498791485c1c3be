import Heartbeat.Watchdog.Session

/-!
# What a watchdog knows is consistent

The nodes are kept in a list strictly ordered by name, so that a name stands for at most one node
and the list can be read as a table: entering a node changes what is found under its name only, and
dropping nodes only loses some.

What is known is consistent with what was recorded (`Watchdog.Consistent`): the arrivals of a node
are few and end with when it was last seen, its payload is the latest one recorded under its name,
and the three counts agree with the list and with each other. Every step keeps this, and so do all
steps of a session (`Session.consistent_after`).
-/

namespace Heartbeat.Watchdog

/-! ## Lists ordered by name -/

/-- The names are strictly ascending. -/
def Ordered (nodes : List (String × Node)) : Prop :=
  nodes.Pairwise fun earlier later => earlier.1 < later.1

section Ordered

variable {name other : String} {node : Node} {nodes : List (String × Node)}

theorem lt_of_not_lt_of_ne (hlt : ¬ name < other) (hne : name ≠ other) : other < name := by
  rw [← String.not_le]
  intro hle
  exact hne (String.le_antisymm hle (String.not_lt.mp hlt))

theorem lookup_cons_of_ne (h : other ≠ name) :
    ((name, node) :: nodes).lookup other = nodes.lookup other := by
  rw [List.lookup_cons, beq_eq_false_iff_ne.mpr h]

theorem lookup_enter :
    (enter name node nodes).lookup other =
      if other = name then some node else nodes.lookup other := by
  induction nodes with
  | nil =>
      rw [enter]
      split
      · next heq =>
          subst heq
          exact List.lookup_cons_self
      · next hne => exact lookup_cons_of_ne hne
  | cons entry rest ih =>
      obtain ⟨first, known⟩ := entry
      rw [enter]
      by_cases hname : other = name
      · subst hname
        rw [if_pos rfl] at ih ⊢
        split
        · exact List.lookup_cons_self
        · split
          · exact List.lookup_cons_self
          · next hne => rw [lookup_cons_of_ne hne, ih]
      · rw [if_neg hname] at ih ⊢
        split
        · exact lookup_cons_of_ne hname
        · split
          · next heq =>
              subst heq
              rw [lookup_cons_of_ne hname, lookup_cons_of_ne hname]
          · rw [List.lookup_cons, List.lookup_cons, ih]

theorem mem_enter {entry : String × Node} (h : entry ∈ enter name node nodes) :
    entry = (name, node) ∨ entry ∈ nodes := by
  induction nodes with
  | nil => exact .inl (List.mem_singleton.mp h)
  | cons first rest ih =>
      rw [enter] at h
      split at h
      · exact List.mem_cons.mp h
      · split at h
        · rcases List.mem_cons.mp h with heq | hrest
          · exact .inl heq
          · exact .inr (List.mem_cons_of_mem _ hrest)
        · rcases List.mem_cons.mp h with rfl | hrest
          · exact .inr List.mem_cons_self
          · rcases ih hrest with heq | hmem
            · exact .inl heq
            · exact .inr (List.mem_cons_of_mem _ hmem)

theorem Ordered.enter (h : Ordered nodes) : Ordered (enter name node nodes) := by
  induction nodes with
  | nil => exact List.pairwise_singleton _ _
  | cons entry rest ih =>
      obtain ⟨first, known⟩ := entry
      obtain ⟨hfirst, hrest⟩ := List.pairwise_cons.mp h
      rw [Watchdog.enter]
      split
      · next hlt =>
          refine List.pairwise_cons.mpr ⟨?_, h⟩
          intro entry hentry
          rcases List.mem_cons.mp hentry with rfl | hmem
          · exact hlt
          · exact String.lt_trans hlt (hfirst entry hmem)
      · next hge =>
          split
          · next heq =>
              subst heq
              exact List.pairwise_cons.mpr ⟨hfirst, hrest⟩
          · next hne =>
              refine List.pairwise_cons.mpr ⟨?_, ih hrest⟩
              intro entry hentry
              rcases mem_enter hentry with rfl | hmem
              · exact lt_of_not_lt_of_ne hge hne
              · exact hfirst entry hmem

/-- A name below all others is not found. -/
theorem lookup_eq_none_of_lt (h : ∀ entry ∈ nodes, name < entry.1) :
    nodes.lookup name = none := by
  rw [List.lookup_eq_none_iff]
  intro entry hentry
  rw [bne_iff_ne]
  intro heq
  exact String.lt_irrefl _ (heq ▸ h entry hentry)

theorem Ordered.length_enter (h : Ordered nodes) :
    (Watchdog.enter name node nodes).length =
      nodes.length + if (nodes.lookup name).isSome then 0 else 1 := by
  induction nodes with
  | nil => rfl
  | cons entry rest ih =>
      obtain ⟨first, known⟩ := entry
      obtain ⟨hfirst, hrest⟩ := List.pairwise_cons.mp h
      rw [Watchdog.enter]
      split
      · next hlt =>
          have hnone : ((first, known) :: rest).lookup name = none := by
            apply lookup_eq_none_of_lt
            intro entry hentry
            rcases List.mem_cons.mp hentry with rfl | hmem
            · exact hlt
            · exact String.lt_trans hlt (hfirst entry hmem)
          rw [hnone]
          rfl
      · split
        · next heq =>
            subst heq
            rw [List.lookup_cons_self]
            rfl
        · next hne =>
            rw [lookup_cons_of_ne hne, List.length_cons, ih hrest, List.length_cons]
            omega

theorem Ordered.filter (keep : String × Node → Bool) (h : Ordered nodes) :
    Ordered (nodes.filter keep) :=
  List.Pairwise.filter keep h

theorem Ordered.names (h : Ordered nodes) : (nodes.map Prod.fst).Pairwise (· < ·) :=
  List.Pairwise.map Prod.fst (fun _ _ hlt => hlt) h

theorem Ordered.nodup_names (h : Ordered nodes) : (nodes.map Prod.fst).Nodup := by
  refine h.names.imp ?_
  rintro earlier later hlt rfl
  exact String.lt_irrefl _ hlt

theorem Ordered.lookup_filter (keep : String × Node → Bool) (h : Ordered nodes) :
    (nodes.filter keep).lookup name =
      (nodes.lookup name).filter fun node => keep (name, node) := by
  induction nodes with
  | nil => rfl
  | cons entry rest ih =>
      obtain ⟨first, known⟩ := entry
      obtain ⟨hfirst, hrest⟩ := List.pairwise_cons.mp h
      rw [List.filter_cons]
      by_cases hname : name = first
      · subst hname
        rw [List.lookup_cons_self]
        split
        · next hkeep => rw [List.lookup_cons_self, Option.filter_some, if_pos hkeep]
        · next hdrop =>
            rw [ih hrest, lookup_eq_none_of_lt hfirst, Option.filter_some, if_neg hdrop]
            rfl
      · rw [lookup_cons_of_ne hname, ← ih hrest]
        split
        · exact lookup_cons_of_ne hname
        · rfl

theorem Ordered.lookup_eq_some_iff (h : Ordered nodes) :
    nodes.lookup name = some node ↔ (name, node) ∈ nodes := by
  induction nodes with
  | nil => simp
  | cons entry rest ih =>
      obtain ⟨first, known⟩ := entry
      obtain ⟨hfirst, hrest⟩ := List.pairwise_cons.mp h
      rw [List.mem_cons, Prod.mk.injEq]
      by_cases hname : name = first
      · subst hname
        rw [List.lookup_cons_self]
        constructor
        · intro heq
          exact .inl ⟨rfl, (Option.some.inj heq).symm⟩
        · rintro (⟨-, rfl⟩ | hmem)
          · rfl
          · exact absurd (hfirst _ hmem) (String.lt_irrefl _)
      · rw [lookup_cons_of_ne hname, ih hrest]
        simp [hname]

end Ordered

/-! ## What was recorded -/

/-- What a step records, by its answer: a datagram that was received counts as one from its node,
as it was read. -/
def recorded? : Step → Answer → Option (String × Payload)
  | .record name payload _, _ => some (name, payload)
  | .receive _, .received datagram => datagram
  | _, _ => none

namespace Session

/-- The steps with their answers. -/
def transcript (session : Session) : List Step → List (Step × Answer)
  | [] => []
  | step :: steps => (step, (session.step step).1) :: transcript (session.step step).2 steps

end Session

/-- What was recorded, in order. -/
def records (transcript : List (Step × Answer)) : List (String × Payload) :=
  transcript.filterMap fun entry => recorded? entry.1 entry.2

/-- The latest payload recorded under a name. -/
def latest? (records : List (String × Payload)) (name : String) : Option Payload :=
  records.reverse.lookup name

theorem latest?_append (records : List (String × Payload)) (name other : String)
    (payload : Payload) :
    latest? (records ++ [(name, payload)]) other =
      if other = name then some payload else latest? records other := by
  rw [latest?, List.reverse_append]
  by_cases hname : other = name
  · subst hname
    rw [if_pos rfl]
    exact List.lookup_cons_self
  · rw [if_neg hname]
    show List.lookup other ((name, payload) :: records.reverse) = _
    rw [List.lookup_cons, beq_eq_false_iff_ne.mpr hname]
    rfl

/-! ## The invariant -/

/-- The watchdog agrees with what was recorded. -/
structure Consistent (watchdog : Watchdog) (records : List (String × Payload)) : Prop where
  ordered : Ordered watchdog.nodes
  history : ∀ name node, watchdog.find? name = some node →
    node.arrivals.length ≤ historyLength ∧ node.arrivals.getLast? = some node.lastSeen
  payload : ∀ name node, watchdog.find? name = some node →
    latest? records name = some node.lastPayload
  nodesSeen_eq : watchdog.nodesSeen = watchdog.expired + watchdog.nodes.length
  nodesSeen_le : watchdog.nodesSeen ≤ watchdog.datagrams
  datagrams_eq : watchdog.datagrams = records.length

theorem consistent_new : Consistent {} [] where
  ordered := List.Pairwise.nil
  history := by
    intro name node h
    cases h
  payload := by
    intro name node h
    cases h
  nodesSeen_eq := rfl
  nodesSeen_le := Nat.le_refl _
  datagrams_eq := rfl

theorem length_recent_le (arrivals : List Binary64) :
    (recent arrivals).length ≤ historyLength := by
  rw [recent, List.length_drop]
  omega

/-- What is remembered ends with the latest arrival. -/
theorem getLast?_recent (earlier : List Binary64) (time : Binary64) :
    (recent (earlier ++ [time])).getLast? = some time := by
  have hlength : (earlier ++ [time]).length = earlier.length + 1 := List.length_append
  have hremembered : 0 < historyLength := by decide
  rw [recent, List.getLast?_drop, if_neg (by omega), List.getLast?_append]
  rfl

theorem find?_record {watchdog : Watchdog} {name other : String} {payload : Payload}
    {time : Binary64} :
    (watchdog.record name payload time).find? other =
      if other = name then
        some ⟨time, payload,
          recent (((watchdog.find? name).map Node.arrivals).getD [] ++ [time])⟩
      else watchdog.find? other :=
  lookup_enter

theorem nodesSeen_record {watchdog : Watchdog} {name : String} {payload : Payload}
    {time : Binary64} :
    (watchdog.record name payload time).nodesSeen =
      watchdog.nodesSeen + if (watchdog.find? name).isSome then 0 else 1 := rfl

theorem datagrams_record {watchdog : Watchdog} {name : String} {payload : Payload}
    {time : Binary64} :
    (watchdog.record name payload time).datagrams = watchdog.datagrams + 1 := rfl

theorem Ordered.find?_dropStale {watchdog : Watchdog} (h : Ordered watchdog.nodes)
    (maxAge time : Binary64) (name : String) :
    (watchdog.dropStale maxAge time).2.find? name =
      (watchdog.find? name).filter fun node => !isStale maxAge time node :=
  h.lookup_filter _

theorem Ordered.mem_names_iff {watchdog : Watchdog} {name : String} (h : Ordered watchdog.nodes)
    (wanted : Node → Bool) :
    name ∈ (watchdog.nodes.filter fun (_, node) => wanted node).map Prod.fst ↔
      ∃ node, watchdog.find? name = some node ∧ wanted node = true := by
  rw [List.mem_map]
  constructor
  · rintro ⟨⟨found, node⟩, hentry, rfl⟩
    obtain ⟨hmem, hwanted⟩ := List.mem_filter.mp hentry
    exact ⟨node, h.lookup_eq_some_iff.mpr hmem, hwanted⟩
  · rintro ⟨node, hfind, hwanted⟩
    exact ⟨(name, node), List.mem_filter.mpr ⟨h.lookup_eq_some_iff.mp hfind, hwanted⟩, rfl⟩

theorem Ordered.mem_live_iff {watchdog : Watchdog} {name : String} (h : Ordered watchdog.nodes)
    (maxAge time : Binary64) :
    name ∈ watchdog.live maxAge time ↔
      ∃ node, watchdog.find? name = some node ∧ time - node.lastSeen ≤ maxAge := by
  rw [live, h.mem_names_iff fun node => time - node.lastSeen ≤ maxAge]
  simp

theorem Ordered.mem_dropStale_iff {watchdog : Watchdog} {name : String}
    (h : Ordered watchdog.nodes) (maxAge time : Binary64) :
    name ∈ (watchdog.dropStale maxAge time).1 ↔
      ∃ node, watchdog.find? name = some node ∧ isStale maxAge time node = true :=
  h.mem_names_iff _

namespace Consistent

variable {watchdog : Watchdog} {records : List (String × Payload)}

theorem record (h : Consistent watchdog records) (name : String) (payload : Payload)
    (time : Binary64) :
    Consistent (watchdog.record name payload time) (records ++ [(name, payload)]) where
  ordered := h.ordered.enter
  history := by
    intro other node hfind
    rw [find?_record] at hfind
    split at hfind
    · obtain rfl := Option.some.inj hfind
      dsimp only
      exact ⟨length_recent_le _, getLast?_recent _ _⟩
    · exact h.history other node hfind
  payload := by
    intro other node hfind
    rw [find?_record] at hfind
    rw [latest?_append]
    split at hfind
    · next heq =>
        obtain rfl := Option.some.inj hfind
        rw [if_pos heq]
    · next hne =>
        rw [if_neg hne]
        exact h.payload other node hfind
  nodesSeen_eq := by
    rw [nodesSeen_record, h.nodesSeen_eq, Nat.add_assoc]
    exact congrArg (watchdog.expired + ·) h.ordered.length_enter.symm
  nodesSeen_le := by
    have hle := h.nodesSeen_le
    rw [nodesSeen_record, datagrams_record]
    split
    · omega
    · omega
  datagrams_eq := by
    rw [datagrams_record, h.datagrams_eq, List.length_append, List.length_singleton]

theorem dropStale (h : Consistent watchdog records) (maxAge time : Binary64) :
    Consistent (watchdog.dropStale maxAge time).2 records where
  ordered := h.ordered.filter _
  history := by
    intro name node hfind
    rw [h.ordered.find?_dropStale, Option.filter_eq_some_iff] at hfind
    exact h.history name node hfind.1
  payload := by
    intro name node hfind
    rw [h.ordered.find?_dropStale, Option.filter_eq_some_iff] at hfind
    exact h.payload name node hfind.1
  nodesSeen_eq := by
    -- every node is either dropped or kept
    have hsplit := watchdog.nodes.length_eq_countP_add_countP
      fun entry => isStale maxAge time entry.2
    simp only [List.countP_eq_length_filter, Bool.not_eq_true, Bool.decide_eq_false] at hsplit
    show watchdog.nodesSeen = watchdog.expired + _ + _
    rw [h.nodesSeen_eq, hsplit, Nat.add_assoc]
    rfl
  nodesSeen_le := h.nodesSeen_le
  datagrams_eq := h.datagrams_eq

/-- A step keeps the watchdog consistent with what it records. -/
theorem step {session : Session} (h : Consistent session.watchdog records) (step : Step) :
    Consistent (session.step step).2.watchdog
      (records ++ (recorded? step (session.step step).1).toList) := by
  cases step with
  | setClock time => exact (List.append_nil records).symm ▸ h
  | record name payload time => exact h.record name payload _
  | receive arrival =>
      cases arrival with
      | nothing => exact (List.append_nil records).symm ▸ h
      | failed fault =>
          have hnone : recorded? (.receive (.failed fault))
              (session.step (.receive (.failed fault))).1 = none := by
            simp only [Session.step, receive]
            cases fault.meansNothingArrived <;> rfl
          rw [hnone]
          exact (List.append_nil records).symm ▸ h
      | datagram name payload => exact h.record name _ _
  | live maxAge time => exact (List.append_nil records).symm ▸ h
  | dropStale maxAge time => exact (List.append_nil records).symm ▸ h.dropStale _ _
  | statistics name => exact (List.append_nil records).symm ▸ h

/-- All steps together keep the watchdog consistent with what they record. -/
theorem after {session : Session} (h : Consistent session.watchdog records)
    (steps : List Step) :
    Consistent (session.after steps).watchdog
      (records ++ Watchdog.records (session.transcript steps)) := by
  induction steps generalizing session records with
  | nil => exact (List.append_nil records).symm ▸ h
  | cons step steps ih =>
      have hrest := ih (h.step step)
      have hrecords : Watchdog.records (session.transcript (step :: steps)) =
          (recorded? step (session.step step).1).toList ++
            Watchdog.records ((session.step step).2.transcript steps) := by
        rw [Watchdog.records, Session.transcript, List.filterMap_cons]
        split
        · next hnone => rw [hnone]; rfl
        · next hsome => rw [hsome]; rfl
      rw [hrecords, ← List.append_assoc]
      exact hrest

end Consistent

end Heartbeat.Watchdog
