import Heartbeat.Watch.Listener
import Heartbeat.Watch.Notice
import Heartbeat.Watch.Options

/-!
# The watching command

The command opens a listener, shows the notices of one round after the other and closes with a
summary. It ends when a deadline has passed, which is looked at before each round, or when it is
interrupted while it reads. A failure ends it without a summary: a fault that cannot be put down to
silence, or a setting without a value where the command needs one.

Rehearsed, the command reads from a list of receptions, each of which first moves the clock; when
the list is used up, the next read is interrupted.
-/

namespace Heartbeat.Watch

/-- One read of the listener: how far the clock moves on, and what the socket yields then. -/
structure Reception where
  advance : Binary64 := 0
  arrival : Arrival
  deriving DecidableEq

/-- What a rehearsal of the command runs against. -/
structure Traffic where
  listener : ListenerScript := {}
  clock : Binary64 := 0
  receptions : List Reception := []
  deriving DecidableEq

/-- What brings the rounds to an end. -/
inductive Halt where
  | deadline
  | interrupted
  | failed (failure : Failure)
  deriving DecidableEq

/-- The rounds of a whole run: what they showed, the watchdog after the last one that was
completed, and what ended them. -/
structure Course where
  notices : List Notice
  watchdog : Watchdog
  halt : Halt
  deriving DecidableEq

/-- How long a read waits for a datagram. -/
def readTimeout : Binary64 := 0.2

/-- Has the deadline passed? One that is not a number has. -/
def isOver (deadline : Option Binary64) (clock : Binary64) : Bool :=
  deadline.any fun deadline => !(clock < deadline : Bool)

/-- The rounds from a clock reading and a watchdog on. -/
def course (maxAge deadline : Option Binary64) :
    List Reception → Binary64 → Watchdog → Course
  | [], clock, watchdog =>
    ⟨[], watchdog, if isOver deadline clock then .deadline else .interrupted⟩
  | reception :: rest, clock, watchdog =>
    if isOver deadline clock then ⟨[], watchdog, .deadline⟩
    else
      let clock := clock + reception.advance
      match turn maxAge clock reception.arrival watchdog with
      | (notices, .error failure) => ⟨notices, watchdog, .failed failure⟩
      | (notices, .ok watchdog) =>
        let following := course maxAge deadline rest clock watchdog
        { following with notices := notices ++ following.notices }

/-- When the command has to end that starts at a time, if it has to. -/
def Duration.deadline (start : Binary64) : Duration → Except Failure (Option Binary64)
  | unlimited => .ok none
  | seconds duration => .ok (some (start + duration))
  | void => .error .durationVoid

namespace Options

/-- The rounds of a rehearsal with these options. -/
def course (options : Options) (deadline : Option Binary64) (traffic : Traffic) : Course :=
  Watch.course options.maxAge deadline traffic.receptions traffic.clock {}

/-- How a setting without a value is shown. -/
def voidText : String := "[]"

/-- How the host is shown. -/
def hostText (options : Options) : String := options.host.getD voidText

/-- How the port is shown that was asked for. -/
def portText (options : Options) : String := (options.port.map toString).getD voidText

/-- The line shown when the listener is open. -/
def greeting (options : Options) (port : Int) : String :=
  "Watching " ++ options.hostText ++ ":" ++ toString port

/-- The line shown when the listener cannot be opened. -/
def bindFailure (options : Options) (fault : Fault) : String :=
  "bind " ++ options.hostText ++ ":" ++ options.portText ++ ": " ++ fault.reason

end Options

/-- Lines as they are written, each with its end. -/
def written (lines : List String) : String := String.join (lines.map (· ++ "\n"))

/-- The command with options that have been read. -/
def watch (options : Options) (traffic : Traffic) : Report Failure :=
  match traffic.listener.openListener options.host options.port (some readTimeout) with
  | (.error (.fault fault), events) => ⟨.exit 1, "", written [options.bindFailure fault], events⟩
  | (.error failure, events) => ⟨.escape failure, "", "", events⟩
  | (.ok port, events) =>
    match options.duration.deadline traffic.clock with
    | .error failure => ⟨.escape failure, "", "", events⟩
    | .ok deadline =>
      let course := options.course deadline traffic
      let lines := options.greeting port :: course.notices.map (Notice.line options.verbose)
      let events := events ++ [.closed]
      match course.halt with
      | .failed failure => ⟨.escape failure, written lines, "", events⟩
      | _ => ⟨.exit 0, written (lines ++ course.watchdog.summaryLines), "", events⟩

/-- The whole command in a rehearsal. -/
def rehearse (arguments : List String) (traffic : Traffic) : Report Failure :=
  match Options.parse arguments with
  | .error refusal => ⟨.exit refusal.exitCode, refusal.output, refusal.errorOutput, []⟩
  | .ok options => watch options traffic

end Heartbeat.Watch
