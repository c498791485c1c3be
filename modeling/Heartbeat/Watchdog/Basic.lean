import Heartbeat.Event
import Heartbeat.Fault
import Heartbeat.Watchdog.Statistics

/-!
# The watchdog

A watchdog keeps, for every node it has heard from, when that was last, what the datagram said,
and a bounded history of arrivals for the statistics. Any datagram counts. A node that has been
silent for longer than the caller allows is dropped with everything that is known about it; if it
is heard again it starts afresh.

The nodes are kept in the order of their names, code point by code point, which is the order in
which they are reported.
-/

namespace Heartbeat

/-- What is known about a node. -/
structure Node where
  lastSeen : Binary64
  lastPayload : Payload
  /-- The latest arrivals, oldest first. -/
  arrivals : List Binary64
  deriving DecidableEq

/-- The nodes that are known, and counts of what has happened so far. -/
structure Watchdog where
  nodes : List (String × Node) := []
  datagrams : Nat := 0
  nodesSeen : Nat := 0
  expired : Nat := 0
  deriving DecidableEq

/-- What a socket yields when it is read: nothing, a fault, or a datagram and its sender. -/
inductive Arrival where
  | nothing
  | failed (fault : Fault)
  | datagram (node : String) (payload : Payload)
  deriving DecidableEq

namespace Watchdog

/-- How many bytes of a datagram are read. -/
def bufferLength : Nat := 512

/-- How many arrivals of a node are remembered. -/
def historyLength : Nat := 1024

/-- Enters a node into a list ordered by name, in place of an entry of the same name. -/
def enter (name : String) (node : Node) : List (String × Node) → List (String × Node)
  | [] => [(name, node)]
  | (other, known) :: rest =>
    if name < other then (name, node) :: (other, known) :: rest
    else if name = other then (name, node) :: rest
    else (other, known) :: enter name node rest

/-- What is known about the node of this name. -/
def find? (watchdog : Watchdog) (name : String) : Option Node := watchdog.nodes.lookup name

/-- The latest of the arrivals, as many as are remembered. -/
def recent (arrivals : List Binary64) : List Binary64 :=
  arrivals.drop (arrivals.length - historyLength)

/-- The watchdog after a datagram from a node at a time. -/
def record (name : String) (payload : Payload) (time : Binary64) (watchdog : Watchdog) :
    Watchdog :=
  let known := watchdog.find? name
  let earlier := (known.map Node.arrivals).getD []
  { watchdog with
    nodes := enter name ⟨time, payload, recent (earlier ++ [time])⟩ watchdog.nodes
    datagrams := watchdog.datagrams + 1
    nodesSeen := watchdog.nodesSeen + if known.isSome then 0 else 1 }

/-- Read the socket once. A datagram is cut to the buffer and recorded; the answer says from whom
and what it was. -/
def receive (arrival : Arrival) (time : Binary64) (watchdog : Watchdog) :
    Except Fault (Option (String × Payload)) × Watchdog :=
  match arrival with
  | .nothing => (.ok none, watchdog)
  | .failed fault =>
    (if fault.meansNothingArrived then .ok none else .error fault, watchdog)
  | .datagram name payload =>
    let payload := payload.take bufferLength
    (.ok (some (name, payload)), watchdog.record name payload time)

/-- The nodes heard from within `maxAge` seconds. -/
def live (maxAge time : Binary64) (watchdog : Watchdog) : List String :=
  (watchdog.nodes.filter fun (_, node) => time - node.lastSeen ≤ maxAge).map Prod.fst

/-- Has the node been silent for more than `maxAge` seconds? -/
def isStale (maxAge time : Binary64) (node : Node) : Bool := maxAge < time - node.lastSeen

/-- Forget the nodes that have been silent for more than `maxAge` seconds; the answer names
them. -/
def dropStale (maxAge time : Binary64) (watchdog : Watchdog) : List String × Watchdog :=
  let stale := watchdog.nodes.filter fun (_, node) => isStale maxAge time node
  (stale.map Prod.fst,
    { watchdog with
      nodes := watchdog.nodes.filter fun (_, node) => !isStale maxAge time node
      expired := watchdog.expired + stale.length })

/-- The statistics of a node; those of an unknown one are all zero. -/
def statistics (name : String) (watchdog : Watchdog) : Statistics :=
  .ofArrivals (((watchdog.find? name).map Node.arrivals).getD [])

end Watchdog

end Heartbeat
