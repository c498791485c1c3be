import Heartbeat.Binary64.Basic

/-!
# Retries

A send that fails may be tried again, a limited number of times, with a pause before each new
attempt. Every pause is the one before it multiplied by a fixed factor, rounded each time. The
number of retries may be huge, so the pauses are given by their beginning.
-/

namespace Heartbeat

/-- How often a failed send is tried again, and how long to pause before that. -/
structure RetryPolicy where
  retries : Int := 0
  backoff : Binary64 := 0.5
  factor : Binary64 := 2
  deriving DecidableEq

namespace RetryPolicy

/-- The first `count` terms that start with `delay` and grow by `factor`. -/
def growing (factor : Binary64) : Nat → Binary64 → List Binary64
  | 0, _ => []
  | count + 1, delay => delay :: growing factor count (delay * factor)

/-- How many pauses there are; a negative number of retries allows none. -/
def limit (policy : RetryPolicy) : Nat := policy.retries.toNat

/-- The pauses before the retries of one datagram, at most the first `count` of them. -/
def delays (policy : RetryPolicy) (count : Nat) : List Binary64 :=
  growing policy.factor (min count policy.limit) policy.backoff

end RetryPolicy

end Heartbeat
