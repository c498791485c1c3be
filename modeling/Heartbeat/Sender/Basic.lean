import Heartbeat.Config
import Heartbeat.Event
import Heartbeat.Fault
import Heartbeat.Progress
import Heartbeat.RetryPolicy

/-!
# The sender

A sender hands one datagram after the other to the network, a fixed number of them, with a pause
after each and a progress line in between. A failed send ends the run unless the policy allows a
retry. A stop request ends it early; it is looked for before each datagram, after each failed
attempt that could be tried again, and on either side of every pause.

What the sender needs of its surroundings is a structure of operations in any monad. The same
run thus sends real datagrams and goes through the rehearsals about which theorems are stated;
its own state is passed along as a value.
-/

namespace Heartbeat

/-- The datagram that says a node is alive. -/
def heartbeat : Payload := "test123\n".toUTF8.toList

/-- What a sender needs of its surroundings. -/
structure Surroundings (m : Type → Type) where
  /-- Create the datagram socket. -/
  openSocket : m (Except Fault Unit)
  /-- Create the pair of sockets through which a stop request ends a wait. -/
  openWakePair : m (Except Fault Unit)
  /-- Hand a datagram to the network; the answer is a byte count. -/
  transmit : Payload → Endpoint → m (Except Fault Int)
  /-- Is a wait for the given time refused because it is too long? -/
  refusesWait : Binary64 → m Bool
  /-- Wait for the given time, or until a stop is requested. -/
  wait : Binary64 → m Unit
  /-- What holds a sender back before a retry, if it is not a wait. -/
  holdBack : Option (Binary64 → m Unit)
  /-- Has a stop been requested so far? -/
  stopRequested : m Bool
  /-- Write text to the standard output. -/
  print : String → m Unit
  /-- Write text to the standard error output. -/
  complain : String → m Unit
  /-- Close the datagram socket. -/
  close : m Unit

/-- Why a sender could not be set up, or could not go on. -/
inductive SenderError where
  | unresolved
  | noSocket (fault : Fault)
  | noWakePair (fault : Fault)
  | notSent (fault : Fault)
  | waitTooLong
  | closed
  deriving DecidableEq

namespace SenderError

def message : SenderError → String
  | unresolved => "inet_aton() failed"
  | noSocket fault => "socket: " ++ fault.reason
  | noWakePair fault => fault.fullText
  | notSent fault => "sendto(): " ++ fault.reason
  | waitTooLong => "timestamp too large to convert to C _PyTime_t"
  | closed => "file descriptor cannot be a negative integer (-1)"

/-- Is this an error that the command line reports, rather than one that escapes it? -/
def isReported : SenderError → Bool
  | unresolved | noSocket _ | notSent _ => true
  | noWakePair _ | waitTooLong | closed => false

end SenderError

/-- What a sender has counted since it was set up. -/
structure Tally where
  datagrams : Nat := 0
  bytes : Int := 0
  failures : Nat := 0
  retries : Nat := 0
  deriving DecidableEq, Repr

/-- A sender that has been set up. -/
structure Sender where
  config : Config
  policy : RetryPolicy
  destination : Endpoint
  tally : Tally := {}
  /-- Was the last run cut short by a stop request? -/
  interrupted : Bool := false
  closed : Bool := false

namespace Sender

variable {m : Type → Type} [Monad m] (surroundings : Surroundings m)

/-! ## Counting -/

def countSent (bytes : Int) (sender : Sender) : Sender :=
  { sender with tally := { sender.tally with
      datagrams := sender.tally.datagrams + 1, bytes := sender.tally.bytes + bytes } }

def countFailure (sender : Sender) : Sender :=
  { sender with tally := { sender.tally with failures := sender.tally.failures + 1 } }

def countRetry (sender : Sender) : Sender :=
  { sender with tally := { sender.tally with retries := sender.tally.retries + 1 } }

/-! ## Setting up and closing -/

/-- The policy that a configuration asks for. -/
def defaultPolicy (config : Config) : RetryPolicy :=
  { retries := config.retries, backoff := config.retryBackoff }

/-- Set a sender up: resolve the server, create the socket unless one is given, and create the
wake pair. If the pair cannot be created the socket is closed again. -/
def create (config : Config) (policy : RetryPolicy) (socketGiven : Bool) :
    m (Except SenderError Sender) := do
  match Endpoint.resolve? config.server config.port with
  | none => return .error .unresolved
  | some destination =>
    match ← (if socketGiven then pure (.ok ()) else surroundings.openSocket) with
    | .error fault => return .error (.noSocket fault)
    | .ok () =>
      match ← surroundings.openWakePair with
      | .error fault =>
        surroundings.close
        return .error (.noWakePair fault)
      | .ok () => return .ok { config, policy, destination }

/-- Close the socket and the wake pair. -/
def close (sender : Sender) : m Sender := do
  surroundings.close
  return { sender with closed := true }

/-! ## Pausing -/

/-- From this time on the network refuses a wait. It counts the nanoseconds of a wait, and here
they get too many for 63 bits. -/
def waitLimit : Binary64 := 9223372036.854776

/-- Wait up to `delay` seconds unless a stop is pending; the answer says whether one is pending
then. Only a positive delay is waited for, so that of a delay that is not a number nothing is
seen. -/
def sleep (sender : Sender) (delay : Binary64) : m (Except SenderError Bool) := do
  if ← surroundings.stopRequested then
    return .ok true
  else if 0 < delay then
    if ← surroundings.refusesWait delay then
      return .error .waitTooLong
    else if sender.closed then
      return .error .closed
    else
      surroundings.wait delay
      return .ok (← surroundings.stopRequested)
  else
    return .ok false

/-- The pause before a retry: a wait, unless the surroundings have other means. -/
def pauseBeforeRetry (sender : Sender) (delay : Binary64) : m (Except SenderError Unit) := do
  match surroundings.holdBack with
  | some holdBack =>
    holdBack delay
    return .ok ()
  | none =>
    match ← sender.sleep surroundings delay with
    | .error error => return .error error
    | .ok _ => return .ok ()

/-! ## Sending -/

/-- Send one datagram with up to `retries` retries, pausing `delay` seconds before the first of
them. The answer is the byte count, or nothing when a stop request came between a failed attempt
and its retry. -/
def sendRetrying (delay : Binary64) (retries : Nat) (sender : Sender) :
    m (Except SenderError (Option Int) × Sender) := do
  match ← surroundings.transmit heartbeat sender.destination with
  | .ok bytes => return (.ok (some bytes), sender)
  | .error fault =>
    let sender := sender.countFailure
    match retries with
    | 0 => return (.error (.notSent fault), sender)
    | retries + 1 =>
      if ← surroundings.stopRequested then
        return (.ok none, sender)
      else
        let sender := sender.countRetry
        match ← sender.pauseBeforeRetry surroundings delay with
        | .error error => return (.error error, sender)
        | .ok () =>
          if ← surroundings.stopRequested then
            return (.ok none, sender)
          else
            sendRetrying (delay * sender.policy.factor) retries sender

/-- Send one datagram with the retries that the policy allows. -/
def send (sender : Sender) : m (Except SenderError (Option Int) × Sender) :=
  sendRetrying surroundings sender.policy.backoff sender.policy.limit sender

/-- Send the last `remaining` datagrams of a run, each followed by its progress line and the
pause between datagrams. -/
def sendRemaining (remaining : Nat) (sender : Sender) : m (Except SenderError Unit × Sender) := do
  match remaining with
  | 0 => return (.ok (), sender)
  | remaining + 1 =>
    if ← surroundings.stopRequested then
      return (.ok (), sender)
    else
      match ← sender.send surroundings with
      | (.error error, sender) => return (.error error, sender)
      | (.ok none, sender) => return (.ok (), sender)
      | (.ok (some bytes), sender) =>
        let sender := sender.countSent bytes
        let count := sender.config.count
        surroundings.print (Progress.line (count - (remaining + 1)) count ++ "\n")
        match ← sender.sleep surroundings sender.config.interval with
        | .error error => return (.error error, sender)
        | .ok true => return (.ok (), sender)
        | .ok false => sendRemaining remaining sender

/-- Judge a run whose loop has ended without an error, by all the datagrams that the sender has
sent so far: with fewer than the run was to send it is marked as interrupted, otherwise the line
of a complete run is shown. -/
def conclude (sender : Sender) : m (Nat × Sender) := do
  if sender.tally.datagrams < sender.config.count then
    return (sender.tally.datagrams, { sender with interrupted := true })
  else
    surroundings.print (Progress.completeLine ++ "\n")
    return (sender.tally.datagrams, sender)

/-- A whole run. Whatever happens, the sender is closed at its end. The answer is the number of
datagrams that the sender has sent in all its runs. -/
def run (sender : Sender) : m (Except SenderError Nat × Sender) := do
  match ← sender.sendRemaining surroundings sender.config.count with
  | (.error error, sender) => return (.error error, ← sender.close surroundings)
  | (.ok (), sender) =>
    let (sent, sender) ← sender.conclude surroundings
    return (.ok sent, ← sender.close surroundings)

end Sender

end Heartbeat
