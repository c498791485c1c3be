import Heartbeat.Binary64.Fixed
import Heartbeat.Watchdog.Basic

/-!
# The summary of a watchdog

At the end one line is shown for every node that is still known, in the order of their names, and
one with the counts of the whole time.
-/

namespace Heartbeat.Watchdog

/-- A duration in seconds as it is shown, with three decimal places. -/
def seconds (duration : Binary64) : String := duration.fixed 3 ++ "s"

/-- The line about one node. -/
def nodeLine (name : String) (statistics : Statistics) : String :=
  name ++ ": " ++ toString statistics.count ++ " datagrams, gap mean " ++ seconds statistics.mean
    ++ " std " ++ seconds statistics.deviation ++ " max " ++ seconds statistics.largest

/-- The line about the whole time. -/
def totalLine (watchdog : Watchdog) : String :=
  "datagrams=" ++ toString watchdog.datagrams ++ " nodes=" ++ toString watchdog.nodesSeen
    ++ " expired=" ++ toString watchdog.expired

/-- The lines of the summary. -/
def summaryLines (watchdog : Watchdog) : List String :=
  watchdog.nodes.map (fun (name, node) => nodeLine name (.ofArrivals node.arrivals))
    ++ [watchdog.totalLine]

end Heartbeat.Watchdog
