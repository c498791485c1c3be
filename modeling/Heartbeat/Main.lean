import Heartbeat.Client.Command
import Heartbeat.Watch.Command
import Std.Async.DNS
import Std.Async.Signal
import Std.Async.Timer
import Std.Async.UDP

/-!
# The program

Arguments that begin with the word `watch` are those of the watching command, all others are
those of the sending command. Nothing is decided here: the sender runs in surroundings made of a
real socket, real time and real signals, and the watching command takes the turns that it also
takes in a rehearsal.
-/

namespace Heartbeat.Program

open Std.Async

/-- What an action yields, or the fault that it ends with. -/
def attempt {α : Type} (action : IO α) : IO (Except Fault α) := do
  match ← action.toBaseIO with
  | .ok result => return .ok result
  | .error error => return .error (.worded (toString error))

def print (text : String) : IO Unit := do
  let output ← IO.getStdout
  output.putStr text
  output.flush

def complain (text : String) : IO Unit := do
  let output ← IO.getStderr
  output.putStr text
  output.flush

/-- A time in seconds as whole milliseconds. -/
def milliseconds : Binary64 → Std.Time.Millisecond.Offset
  | .finite false units _ => .ofNat (units * 1000 / Binary64.unitsInOne)
  | _ => .ofNat 0

/-- Seconds on a clock that never goes back. -/
def now : IO Binary64 := do
  let nanoseconds ← IO.monoNanosNow
  return .ofDecimal false nanoseconds (-9)

/-- An address in the form in which sockets take it. -/
def networkAddress (address : Address) : Std.Net.IPv4Addr :=
  let byte (place : Nat) : UInt8 := .ofNat (address.value / 256 ^ place)
  .ofParts (byte 3) (byte 2) (byte 1) (byte 0)

/-- The place on the network that an endpoint names. A host that is no address is looked up. -/
def locate (endpoint : Endpoint) : IO Std.Net.SocketAddress := do
  if endpoint.port < 0 ∨ 65535 < endpoint.port then
    throw (IO.userError "port must be 0-65535.")
  let port : UInt16 := .ofNat endpoint.port.toNat
  match Address.parse? endpoint.host with
  | some address => return .v4 ⟨networkAddress address, port⟩
  | none =>
    let found ← (DNS.getAddrInfo endpoint.host "" (some .ipv4)).block
    match found.toList with
    | .v4 address :: _ => return .v4 ⟨address, port⟩
    | _ => throw (IO.userError "Name or service not known")

/-- Resolves the promise whenever one of the signals arrives. -/
def resolveOn (signals : List Signal) (promise : IO.Promise Unit) : IO (List Signal.Waiter) :=
  signals.mapM fun signal => do
    let waiter ← Signal.Waiter.mk signal true
    discard <| (← waiter.wait).mapIO fun _ => promise.resolve ()
    return waiter

/-! ## Sending -/

/-- The surroundings of a sender on the network. A stop is requested by resolving the promise. -/
def network (socket : IO.Ref (Option UDP.Socket)) (stop : IO.Promise Unit) : Surroundings IO where
  openSocket := attempt do socket.set (some (← UDP.Socket.mk))
  openWakePair := return .ok ()
  transmit payload destination := attempt do
    match ← socket.get with
    | none => throw (IO.userError "Bad file descriptor")
    | some socket =>
      (socket.send payload.toByteArray (some (← locate destination))).block
      return payload.length
  refusesWait seconds := return decide (Sender.waitLimit ≤ seconds)
  wait seconds := do
    let timer ← (sleep (milliseconds seconds)).toIO
    discard <| IO.waitAny [Task.map (fun _ => ()) timer, stop.result?.map fun _ => ()]
  holdBack := none
  stopRequested := stop.isResolved
  print := print
  complain := complain
  close := socket.set none

/-- Runs the sending command; the answer is its exit code. -/
def send (arguments : List String) : IO UInt32 := do
  let stop ← IO.Promise.new
  let waiters ← resolveOn [.sigint, .sigterm] stop
  let ending ← Client.run (network (← IO.mkRef none) stop) arguments
  waiters.forM Signal.Waiter.stop
  match ending with
  | .exit code => return .ofNat code
  | .escape error =>
    complain (error.message ++ "\n")
    return 1

/-! ## Watching -/

/-- Opens a listener; the answer names the port that it is bound to. -/
def openListener (host : Option String) (port : Int) :
    IO (Except Watch.Failure (UDP.Socket × Int)) := do
  -- nothing is known of the network yet, but an address that is none can be told
  if let some failure := ({} : ListenerScript).bindError? host port then
    return .error failure
  let opened ← attempt do
    let socket ← UDP.Socket.mk
    socket.bind (← locate ⟨host.getD "", port⟩)
    match ← socket.getSockName with
    | .v4 address => return (socket, (address.port.toNat : Int))
    | .v6 address => return (socket, (address.port.toNat : Int))
  return opened.mapError .fault

/-- Reads the socket once; nothing is answered when an interrupt comes first. -/
def receive (socket : UDP.Socket) (interrupt : Signal.Waiter) : IO (Option Arrival) := do
  let arrival (datagram : ByteArray × Option Std.Net.SocketAddress) : Arrival :=
    match datagram.2 with
    | none => .nothing
    | some sender => .datagram (toString sender.ipAddr) datagram.1.toList
  let result ← attempt <| Async.block do
    Selectable.one #[
      .case interrupt.selector fun _ => return none,
      .case (socket.recvSelector (.ofNat Watchdog.bufferLength)) fun datagram =>
        return some (arrival datagram),
      .case (← Selector.sleep (milliseconds Watch.readTimeout)) fun _ => return some .nothing]
  match result with
  | .ok arrival => return arrival
  | .error fault => return some (.failed fault)

/-- Takes turns until the deadline has passed, an interrupt comes or reading fails. -/
def takeTurns (options : Watch.Options) (deadline : Option Binary64) (socket : UDP.Socket)
    (interrupt : Signal.Waiter) : IO (Except Watch.Failure Watchdog) := do
  let mut watchdog : Watchdog := {}
  repeat
    if Watch.isOver deadline (← now) then return .ok watchdog
    let some arrival ← receive socket interrupt | return .ok watchdog
    let (notices, result) := Watch.turn options.maxAge (← now) arrival watchdog
    print (Watch.written (notices.map (Watch.Notice.line options.verbose)))
    match result with
    | .error failure => return .error failure
    | .ok next => watchdog := next
  return .ok watchdog

/-- Watches on an open listener. -/
def watchOn (options : Watch.Options) (socket : UDP.Socket) (port : Int) :
    IO (Except Watch.Failure Watchdog) := do
  match options.duration.deadline (← now) with
  | .error failure => return .error failure
  | .ok deadline =>
    let interrupt ← Signal.Waiter.mk .sigint true
    print (Watch.written [options.greeting port])
    let result ← takeTurns options deadline socket interrupt
    interrupt.stop
    return result

/-- Ends the watching command without a summary. -/
def fail (failure : Watch.Failure) : IO UInt32 := do
  complain (Watch.written [failure.message])
  return 1

/-- Runs the watching command; the answer is its exit code. -/
def watch (arguments : List String) : IO UInt32 := do
  match Watch.Options.parse arguments with
  | .error refusal =>
    print refusal.output
    complain refusal.errorOutput
    return .ofNat refusal.exitCode
  | .ok options =>
    let some port := options.port | fail .portVoid
    match ← openListener options.host port with
    | .error (.fault fault) =>
      complain (Watch.written [options.bindFailure fault])
      return 1
    | .error failure => fail failure
    | .ok (socket, port) =>
      match ← watchOn options socket port with
      | .error failure => fail failure
      | .ok watchdog =>
        print (Watch.written watchdog.summaryLines)
        return 0

end Heartbeat.Program

/-- The program, by its command line. -/
def main : List String → IO UInt32
  | "watch" :: arguments => Heartbeat.Program.watch arguments
  | arguments => Heartbeat.Program.send arguments
