import Heartbeat.Watch.Failure
import Heartbeat.Watchdog.Summary

/-!
# Notices

While it runs, the watching command shows a line for every datagram it hears and for every node
that it drops. What a datagram says is shown as text: bytes that are no character of the first
128 are replaced, and line ends at its end are left out.
-/

namespace Heartbeat.Watch

/-- Something that the user is told about a node. -/
inductive Notice where
  | heard (node : String) (payload : Payload)
  | expired (node : String)
  deriving DecidableEq

/-- The character for a byte; all bytes beyond the first 128 have the same. -/
def shownByte (byte : UInt8) : Char :=
  if byte < 128 then Char.ofNat byte.toNat else '\ufffd'

/-- Is this one of the two characters that end a line? -/
def isLineEnd (c : Char) : Bool := c = '\r' || c = '\n'

/-- What a datagram says. -/
def shownPayload (payload : Payload) : String :=
  .ofList ((payload.map shownByte).reverse.dropWhile isLineEnd).reverse

namespace Notice

/-- The node that the notice is about. -/
def node : Notice → String
  | heard node _ => node
  | expired node => node

/-- The line shown, without its end. -/
def line (verbose : Bool) : Notice → String
  | heard node payload =>
    if verbose then "Node " ++ node ++ " sent: " ++ shownPayload payload
    else "Node " ++ node ++ " is live."
  | expired node => "Node " ++ node ++ " expired."

end Notice

/-- One round of watching: read the socket once, then drop the nodes that have been silent for
too long. The answer is what the round shows, with the watchdog after it or the reason why there
is none: a fault that means more than that nothing arrived, or a known node whose age cannot be
judged. -/
def turn (maxAge : Option Binary64) (time : Binary64) (arrival : Arrival) (watchdog : Watchdog) :
    List Notice × Except Failure Watchdog :=
  match watchdog.receive arrival time with
  | (.error fault, _) => ([], .error (.fault fault))
  | (.ok datagram, watchdog) =>
    let heard := datagram.toList.map fun (node, payload) => .heard node payload
    match maxAge with
    | some maxAge =>
      let (stale, watchdog) := watchdog.dropStale maxAge time
      (heard ++ stale.map .expired, .ok watchdog)
    | none => (heard, if watchdog.nodes = [] then .ok watchdog else .error .maxAgeVoid)

end Heartbeat.Watch
