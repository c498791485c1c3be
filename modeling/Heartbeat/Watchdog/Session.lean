import Heartbeat.Watchdog.Summary

/-!
# Sessions of a watchdog

A session is a watchdog with a clock, used step by step. Each step may name the time it happens
at; without one the clock is read, which only a step of its own moves.
-/

namespace Heartbeat.Watchdog

/-- What the owner of a watchdog may do with it. -/
inductive Step where
  | setClock (time : Binary64)
  | record (name : String) (payload : Payload) (time : Option Binary64)
  | receive (arrival : Arrival)
  | live (maxAge : Binary64) (time : Option Binary64)
  | dropStale (maxAge : Binary64) (time : Option Binary64)
  | statistics (name : String)
  deriving DecidableEq

/-- What the watchdog answers. -/
inductive Answer where
  | done
  | received (datagram : Option (String × Payload))
  | failed (fault : Fault)
  | names (names : List String)
  | statistics (statistics : Statistics)
  deriving DecidableEq

/-- A watchdog and its clock. -/
structure Session where
  watchdog : Watchdog := {}
  clock : Binary64 := 0
  deriving DecidableEq

namespace Session

/-- Take one step. -/
def step (session : Session) : Step → Answer × Session
  | .setClock time => (.done, { session with clock := time })
  | .record name payload time =>
    let watchdog := session.watchdog.record name payload (time.getD session.clock)
    (.done, { session with watchdog })
  | .receive arrival =>
    let (result, watchdog) := session.watchdog.receive arrival session.clock
    let answer := match result with
      | .ok datagram => .received datagram
      | .error fault => .failed fault
    (answer, { session with watchdog })
  | .live maxAge time => (.names (session.watchdog.live maxAge (time.getD session.clock)), session)
  | .dropStale maxAge time =>
    let (names, watchdog) := session.watchdog.dropStale maxAge (time.getD session.clock)
    (.names names, { session with watchdog })
  | .statistics name => (.statistics (session.watchdog.statistics name), session)

/-- The session after a list of steps. -/
def after (session : Session) (steps : List Step) : Session :=
  steps.foldl (fun session step => (session.step step).2) session

end Session

end Heartbeat.Watchdog
