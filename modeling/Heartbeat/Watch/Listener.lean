import Heartbeat.Event
import Heartbeat.Watch.Failure

/-!
# Listening sockets

A listener is a datagram socket bound to a host and a port of its own. If it cannot be bound because
of a fault it is closed again. If there is no port to bind it to, or host and port are no address,
it is left as it is. A bound listener either waits for a limited time when it is read, or never.

Of an address the host comes first: it must be there, and it must have a name that the network
understands. A port that is no machine integer is found out next, any other that is out of range
only after the host has been looked up.
-/

namespace Heartbeat

/-- How the surroundings of a listener behave: which of its steps fails, if one does, and which port
is free for a listener that asks for any. -/
structure ListenerScript where
  socketFault : Option Fault := none
  /-- The fault of looking up the host. -/
  hostFault : Option Fault := none
  bindFault : Option Fault := none
  freePort : Int := 40000
  /-- Does the network have a name for the host if it goes beyond ASCII? -/
  encodesHost : Bool := true
  /-- Is the socket a stand-in, which takes whatever address it is given? -/
  takesAnyAddress : Bool := false
  deriving DecidableEq

namespace ListenerScript

/-- What is wrong with a host before it is looked up, if something is. -/
def hostError? (script : ListenerScript) : Option String → Option Watch.AddressError
  | none => some .hostVoid
  | some host =>
    if !script.encodesHost && host.toList.any fun c => 127 < c.toNat then some .hostNotEncoded
    else if '\x00' ∈ host.toList then some .hostWithNull
    else none

/-- Why a socket is not bound to a host and a port, if it is not. -/
def bindError? (script : ListenerScript) (host : Option String) (port : Int) :
    Option Watch.Failure :=
  if script.takesAnyAddress then script.bindFault.map .fault
  else
    match script.hostError? host with
    | some error => some (.address error)
    | none =>
      if port < -2147483648 ∨ 2147483647 < port then some (.address .portOutOfRange)
      else
        match script.hostFault with
        | some fault => some (.fault fault)
        | none =>
          if port < 0 ∨ 65535 < port then some (.address .portOutOfRange)
          else script.bindFault.map .fault

/-- Open a listener: the port that it is bound to in the end, and what that did to the
surroundings. -/
def openListener (script : ListenerScript) (host : Option String) (port : Option Int)
    (timeout : Option Binary64) : Except Watch.Failure Int × List Event :=
  match script.socketFault, port with
  | some fault, _ => (.error (.fault fault), [])
  | none, none => (.error .portVoid, [.opened])
  | none, some port =>
    match script.bindError? host port with
    | some (.fault fault) => (.error (.fault fault), [.opened, .bound host port, .closed])
    | some failure => (.error failure, [.opened, .bound host port])
    | none =>
      let mode := match timeout with
        | none => .unblocked
        | some seconds => .limited seconds
      (.ok (if port = 0 then script.freePort else port), [.opened, .bound host port, mode])

end ListenerScript

end Heartbeat
