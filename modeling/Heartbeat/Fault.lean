/-!
# Faults of the operating system

Every call into the operating system may fail, and what it says then is all the user learns. A
fault carries a number with a text, a text alone, or nothing. Messages show the text of a
numbered fault if it has one, and the full text of the fault otherwise.
-/

namespace Heartbeat

/-- What the operating system reports when a call fails. -/
inductive Fault where
  | numbered (number : Int) (text : String)
  | worded (text : String)
  | silent
  deriving DecidableEq, Repr

namespace Fault

/-- The fault with its number. -/
def fullText : Fault → String
  | numbered number text => "[Errno " ++ toString number ++ "] " ++ text
  | worded text => text
  | silent => ""

/-- What a message says about the fault. -/
def reason : Fault → String
  | numbered number text => if text = "" then (numbered number text).fullText else text
  | fault => fault.fullText

/-- The faults that are told apart by their number. -/
inductive Category where
  | permission
  | interrupted
  | notFound
  | alreadyExists
  | childProcess
  | wouldBlock
  | brokenPipe
  | connectionAborted
  | connectionReset
  | connectionRefused
  | timedOut
  | other
  deriving DecidableEq, Repr

def category : Fault → Category
  | numbered 1 _ | numbered 13 _ => .permission
  | numbered 2 _ => .notFound
  | numbered 4 _ => .interrupted
  | numbered 10 _ => .childProcess
  | numbered 11 _ | numbered 114 _ | numbered 115 _ => .wouldBlock
  | numbered 17 _ => .alreadyExists
  | numbered 32 _ | numbered 108 _ => .brokenPipe
  | numbered 103 _ => .connectionAborted
  | numbered 104 _ => .connectionReset
  | numbered 110 _ => .timedOut
  | numbered 111 _ => .connectionRefused
  | _ => .other

/-- A receive that fails this way has found nothing to receive, and nothing is wrong. -/
def meansNothingArrived (fault : Fault) : Bool :=
  fault.category = .wouldBlock || fault.category = .timedOut

end Fault

end Heartbeat
