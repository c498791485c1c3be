import Heartbeat.Sender.Basic

/-!
# Rehearsals

A rehearsal is a run of the sender in surroundings whose behaviour is laid down beforehand: what
becomes of each datagram, and during which operations how many stop requests arrive. A script
that runs out goes on with its plainest entry, a datagram that is sent whole. The stage keeps
what is left of the script, whether a stop has been requested, and the events so far.
-/

namespace Heartbeat

/-- What becomes of a datagram: it is sent whole, sent with a byte count of its own, or refused. -/
inductive Delivery where
  | whole
  | counted (bytes : Int)
  | refused (fault : Fault)
  deriving DecidableEq

/-- What happens at one hand-over of a datagram. The stop requests arrive first. -/
structure Cue where
  delivery : Delivery := .whole
  stops : Nat := 0
  deriving DecidableEq

/-- What the surroundings will do. Of a wait or a hold only the stop requests that arrive during
it are laid down. -/
structure Script where
  sends : List Cue := []
  waits : List Nat := []
  holds : List Nat := []
  socketFault : Option Fault := none
  wakePairFault : Option Fault := none
  /-- From this time on a wait is refused. -/
  waitLimit : Binary64 := Sender.waitLimit
  deriving DecidableEq

/-- A rehearsal under way. -/
structure Stage where
  script : Script
  stopRequested : Bool := false
  events : Array Event := #[]

namespace Stage

/-- The stage after one more event. -/
def log (event : Event) (stage : Stage) : Stage :=
  { stage with events := stage.events.push event }

/-- The stage after a number of stop requests. -/
def stop (times : Nat) (stage : Stage) : Stage :=
  { stage with stopRequested := stage.stopRequested || 0 < times }

def transmit (payload : Payload) (destination : Endpoint) : StateM Stage (Except Fault Int) :=
  fun stage =>
    let cue := stage.script.sends.headD {}
    let stage := { stage with script.sends := stage.script.sends.tail }.stop cue.stops
    match cue.delivery with
    | .whole => (.ok payload.length, stage.log (.sent payload destination payload.length))
    | .counted bytes => (.ok bytes, stage.log (.sent payload destination bytes))
    | .refused fault => (.error fault, stage.log (.refused payload destination))

def refusesWait (seconds : Binary64) : StateM Stage Bool := fun stage =>
  (decide (stage.script.waitLimit ≤ seconds), stage)

def wait (seconds : Binary64) : StateM Stage Unit := fun stage =>
  let stops := stage.script.waits.headD 0
  let stage := { stage with script.waits := stage.script.waits.tail }
  ((), (stage.log (.waited seconds)).stop stops)

def hold (seconds : Binary64) : StateM Stage Unit := fun stage =>
  let stops := stage.script.holds.headD 0
  let stage := { stage with script.holds := stage.script.holds.tail }
  ((), (stage.log (.heldBack seconds)).stop stops)

def openSocket : StateM Stage (Except Fault Unit) := fun stage =>
  match stage.script.socketFault with
  | some fault => (.error fault, stage)
  | none => (.ok (), stage.log .opened)

def openWakePair : StateM Stage (Except Fault Unit) := fun stage =>
  match stage.script.wakePairFault with
  | some fault => (.error fault, stage)
  | none => (.ok (), stage)

end Stage

/-- The surroundings of a rehearsal. Before a retry the sender either waits or is held back. -/
def rehearsal (holdsBack : Bool) : Surroundings (StateM Stage) where
  openSocket := Stage.openSocket
  openWakePair := Stage.openWakePair
  transmit := Stage.transmit
  refusesWait := Stage.refusesWait
  wait := Stage.wait
  holdBack := if holdsBack then some Stage.hold else none
  stopRequested := fun stage => (stage.stopRequested, stage)
  print text := modify (Stage.log (.printed text))
  complain text := modify (Stage.log (.complained text))
  close := modify (Stage.log .closed)

namespace Sender

/-- What the owner of a sender may ask of it. -/
inductive Command where
  | run
  | stop (times : Nat)
  | close
  | sleep (delay : Binary64)
  | send
  deriving DecidableEq

/-- What the sender answers: how many datagrams it has sent, whether a stop is pending, the byte
count of one datagram if it was sent, or nothing in particular. -/
inductive Answer where
  | sent (datagrams : Nat)
  | stopping (pending : Bool)
  | bytes (count : Option Int)
  | done
  deriving DecidableEq

/-- Carry out a command in a rehearsal. -/
def perform (holdsBack : Bool) (command : Command) (sender : Sender) :
    StateM Stage (Except SenderError Answer × Sender) := do
  let surroundings := rehearsal holdsBack
  match command with
  | .run =>
    let (result, sender) ← sender.run surroundings
    return (result.map .sent, sender)
  | .stop times =>
    modify (Stage.stop times)
    return (.ok .done, sender)
  | .close => return (.ok .done, ← sender.close surroundings)
  | .sleep delay => return ((← sender.sleep surroundings delay).map .stopping, sender)
  | .send =>
    let (result, sender) ← sender.send surroundings
    return (result.map .bytes, sender)

/-- One command of a rehearsal, seen from outside: the answer, the sender and the pending stop
after it, and what it did to the surroundings. -/
structure Act where
  answer : Except SenderError Answer
  sender : Sender
  stopRequested : Bool
  events : List Event

/-- Carry out commands one after the other, whether or not they succeed. -/
def rehearse (holdsBack : Bool) : List Command → Sender → Stage → List Act
  | [], _, _ => []
  | command :: commands, sender, stage =>
    let ((answer, sender), after) := sender.perform holdsBack command stage
    { answer, sender, stopRequested := after.stopRequested
      events := after.events.toList.drop stage.events.size } ::
      rehearse holdsBack commands sender after

end Sender

end Heartbeat
