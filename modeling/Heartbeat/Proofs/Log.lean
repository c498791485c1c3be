import Heartbeat.Sender.Rehearsal

/-!
# Reading a log

The log of a rehearsal is the list of its events. Each event uses up at most one entry of the
script, and with the entry the stop requests laid down in it, so that a log says everything about
the stage it leads to: what is left of the script, and whether a stop has been requested.
`Stage.next` is this rule for one event and `Stage.after` the same for a whole log. Every operation
of a rehearsal is such a step, which is what lets the theorems about runs speak of logs alone.

The other functions here read a log the way an observer does: how many datagrams went out, what
was written, and how many attempts in a row have failed at its end.
-/

namespace Heartbeat

namespace Event

/-- Did a datagram go out? -/
def isSent : Event → Bool
  | sent .. => true
  | _ => false

/-- Was a datagram handed to the network, whatever became of it? -/
def isAttempt : Event → Bool
  | sent .. | refused .. => true
  | _ => false

/-- The text that was written to the standard output, if this is what happened. -/
def text? : Event → Option String
  | printed text => some text
  | _ => none

/-- How many attempts in a row have failed, given how many had before the event. -/
def failuresAfter (failures : Nat) : Event → Nat
  | sent .. => 0
  | refused .. => failures + 1
  | _ => failures

end Event

namespace Log

/-- How many datagrams went out. -/
def sentCount (log : List Event) : Nat := log.countP Event.isSent

/-- The texts written to the standard output, in order. -/
def texts (log : List Event) : List String := log.filterMap Event.text?

/-- How many attempts have failed since the last datagram that went out, or since the beginning
if none did. -/
def failuresInARow (log : List Event) : Nat := log.foldl Event.failuresAfter 0

theorem sentCount_append (first rest : List Event) :
    sentCount (first ++ rest) = sentCount first + sentCount rest :=
  List.countP_append

theorem texts_append (first rest : List Event) :
    texts (first ++ rest) = texts first ++ texts rest :=
  List.filterMap_append

end Log

namespace Script

/-- How many stop requests arrive during an event, by the entry of the script that it uses up. -/
def stopsDuring (script : Script) : Event → Nat
  | .sent .. | .refused .. => (script.sends.headD {}).stops
  | .waited _ => script.waits.headD 0
  | .heldBack _ => script.holds.headD 0
  | _ => 0

/-- What is left of the script after an event. -/
def next (script : Script) : Event → Script
  | .sent .. | .refused .. => { script with sends := script.sends.tail }
  | .waited _ => { script with waits := script.waits.tail }
  | .heldBack _ => { script with holds := script.holds.tail }
  | _ => script

/-- What is left of the script after a log. -/
def after (script : Script) (log : List Event) : Script := log.foldl next script

/-- Does a stop request arrive during one of the events? -/
def stopsWithin : Script → List Event → Bool
  | _, [] => false
  | script, event :: log => 0 < script.stopsDuring event || (script.next event).stopsWithin log

@[simp] theorem after_nil (script : Script) : script.after [] = script := rfl

@[simp] theorem after_cons (script : Script) (event : Event) (log : List Event) :
    script.after (event :: log) = (script.next event).after log := rfl

theorem after_append (script : Script) (first rest : List Event) :
    script.after (first ++ rest) = (script.after first).after rest :=
  List.foldl_append

/-- No event changes how long a wait may be. -/
@[simp] theorem waitLimit_after (script : Script) (log : List Event) :
    (script.after log).waitLimit = script.waitLimit := by
  induction log generalizing script with
  | nil => rfl
  | cons event log ih =>
      rw [after_cons, ih]
      cases event <;> rfl

end Script

namespace Stage

/-- What the next attempt to send a heartbeat comes to. -/
def outcome (stage : Stage) : Except Fault Int :=
  match (stage.script.sends.headD {}).delivery with
  | .whole => .ok heartbeat.length
  | .counted bytes => .ok bytes
  | .refused fault => .error fault

/-- The stage after an event. -/
def next (stage : Stage) (event : Event) : Stage where
  script := stage.script.next event
  stopRequested := stage.stopRequested || 0 < stage.script.stopsDuring event
  events := stage.events.push event

/-- The stage after a log. -/
def after (stage : Stage) (log : List Event) : Stage := log.foldl next stage

@[simp] theorem after_nil (stage : Stage) : stage.after [] = stage := rfl

@[simp] theorem after_cons (stage : Stage) (event : Event) (log : List Event) :
    stage.after (event :: log) = (stage.next event).after log := rfl

theorem after_append (stage : Stage) (first rest : List Event) :
    stage.after (first ++ rest) = (stage.after first).after rest :=
  List.foldl_append

theorem script_after (stage : Stage) (log : List Event) :
    (stage.after log).script = stage.script.after log := by
  induction log generalizing stage with
  | nil => rfl
  | cons event log ih => exact ih (stage.next event)

theorem stopRequested_after (stage : Stage) (log : List Event) :
    (stage.after log).stopRequested =
      (stage.stopRequested || stage.script.stopsWithin log) := by
  induction log generalizing stage with
  | nil => simp [Script.stopsWithin]
  | cons event log ih =>
      rw [after_cons, ih, Script.stopsWithin, ← Bool.or_assoc]
      rfl

theorem toList_events_after (stage : Stage) (log : List Event) :
    (stage.after log).events.toList = stage.events.toList ++ log := by
  induction log generalizing stage with
  | nil => simp
  | cons event log ih =>
      rw [after_cons, ih]
      simp [next]

/-- The events since an earlier stage are the log that led from it to the later one. -/
theorem drop_events_after (stage : Stage) (log : List Event) :
    (stage.after log).events.toList.drop stage.events.size = log := by
  rw [toList_events_after, ← Array.length_toList, List.drop_left]

/-! ## The operations of a rehearsal are steps -/

theorem transmit_heartbeat (stage : Stage) (destination : Endpoint) :
    stage.transmit heartbeat destination =
      match stage.outcome with
      | .ok bytes => (.ok bytes, stage.next (.sent heartbeat destination bytes))
      | .error fault => (.error fault, stage.next (.refused heartbeat destination)) := by
  cases h : (stage.script.sends.headD {}).delivery with
  | whole => simp only [transmit, outcome, h]; rfl
  | counted bytes => simp only [transmit, outcome, h]; rfl
  | refused fault => simp only [transmit, outcome, h]; rfl

end Stage

end Heartbeat
