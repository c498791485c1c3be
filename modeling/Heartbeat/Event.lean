import Heartbeat.Address
import Heartbeat.Binary64.Basic

/-!
# What the outside sees

A run is known by what it does to its surroundings, in order: the sockets it opens, binds and
closes, the datagrams it hands to the network, the pauses it makes and the text it writes.
-/

namespace Heartbeat

/-- The bytes of a datagram. -/
abbrev Payload := List UInt8

/-- One thing that a program does to its surroundings. -/
inductive Event where
  /-- A datagram socket was created. -/
  | opened
  /-- A datagram was handed to the network, which reported a byte count. -/
  | sent (payload : Payload) (destination : Endpoint) (bytes : Int)
  /-- The network refused a datagram. -/
  | refused (payload : Payload) (destination : Endpoint)
  /-- The program waited, at most for the given time. -/
  | waited (seconds : Binary64)
  /-- The program was held back before a retry by other means than waiting. -/
  | heldBack (seconds : Binary64)
  /-- Text was written to the standard output. -/
  | printed (text : String)
  /-- Text was written to the standard error output. -/
  | complained (text : String)
  /-- The socket was told to be bound to a port of a host, if one was named. -/
  | bound (host : Option String) (port : Int)
  /-- The socket was told never to wait. -/
  | unblocked
  /-- The socket was told to wait at most for the given time. -/
  | limited (seconds : Binary64)
  /-- The socket was closed. -/
  | closed
  deriving DecidableEq

namespace Event

/-- The text that reaches the standard output. -/
def output : Event → String
  | printed text => text
  | _ => ""

/-- The text that reaches the standard error output. -/
def errorOutput : Event → String
  | complained text => text
  | _ => ""

/-- Does the event concern the network rather than the terminal? -/
def isOutward : Event → Bool
  | printed _ | complained _ => false
  | _ => true

end Event

/-- How a command line ends: with an exit code, or by an error that it does not handle. -/
inductive Ending (ε : Type) where
  | exit (code : Nat)
  | escape (error : ε)
  deriving DecidableEq

/-- All that the outside learns of a command line. -/
structure Report (ε : Type) where
  ending : Ending ε
  output : String
  errorOutput : String
  events : List Event
  deriving DecidableEq

/-- The report of a command line that did the given things in order. -/
def Report.ofEvents {ε : Type} (ending : Ending ε) (events : List Event) : Report ε where
  ending := ending
  output := String.join (events.map Event.output)
  errorOutput := String.join (events.map Event.errorOutput)
  events := events.filter Event.isOutward

end Heartbeat
