import Heartbeat.Binary64.Basic

/-!
# Statistics of the gaps between heartbeats

The mean, the standard deviation and the largest of the gaps between neighbouring arrivals are
computed in binary64, so the order in which the terms of a sum are added shows in the last digits.
Short sums run from left to right. Up to 128 terms go into eight running sums, the terms in turn
to the first, the second and so on, which are added up in pairs at the end, before the terms that
do not fill a round are added. Longer sums are cut in two, the first half a multiple of eight
terms long.
-/

namespace Heartbeat.Watchdog

/-- The gaps between neighbouring arrivals. -/
def gaps (arrivals : List Binary64) : List Binary64 :=
  List.zipWith (fun earlier later => later - earlier) arrivals arrivals.tail

/-- The sums of the first and second term, the third and fourth, and so on. -/
def addInPairs : List Binary64 → List Binary64
  | first :: second :: rest => (first + second) :: addInPairs rest
  | rest => rest

/-- Adds the terms in rounds to the running sums, then these in pairs until one is left, then the
terms of the last round if it is not full. -/
def addInRounds (sums terms : List Binary64) : Binary64 :=
  if terms.length < 8 then
    terms.foldl (· + ·) ((addInPairs (addInPairs (addInPairs sums))).headD 0)
  else
    addInRounds (List.zipWith (· + ·) sums (terms.take 8)) (terms.drop 8)
termination_by terms.length
decreasing_by simp_all; omega

/-- The sum of the terms before the zero in front is added. -/
def sumInHalves (terms : List Binary64) : Binary64 :=
  if terms.length < 8 then terms.foldl (· + ·) (-0)
  else if terms.length ≤ 128 then addInRounds (terms.take 8) (terms.drop 8)
  else
    let half := terms.length / 2 / 8 * 8
    sumInHalves (terms.take half) + sumInHalves (terms.drop half)
termination_by terms.length
decreasing_by all_goals simp_all; omega

def sum (terms : List Binary64) : Binary64 := 0 + sumInHalves terms

def mean (terms : List Binary64) : Binary64 := sum terms / .ofInt terms.length

/-- The root of the mean squared distance from the mean. -/
def deviation (terms : List Binary64) : Binary64 :=
  let centre := mean terms
  (mean (terms.map fun term => (term - centre) * (term - centre))).sqrt

/-- The largest term, the last one if several are; not a number if one of the terms is not. -/
def largest : List Binary64 → Binary64
  | [] => 0
  | first :: rest => rest.foldl Binary64.max first

/-- What is known about the arrivals of one node: how many there are, and of the gaps between
them the mean, the standard deviation and the largest. -/
structure Statistics where
  count : Nat
  mean : Binary64
  deviation : Binary64
  largest : Binary64
  deriving DecidableEq

/-- The statistics of a list of arrivals. Without a gap all of them are zero. -/
def Statistics.ofArrivals (arrivals : List Binary64) : Statistics :=
  if arrivals.length < 2 then ⟨arrivals.length, 0, 0, 0⟩
  else
    let gaps := gaps arrivals
    ⟨arrivals.length, Watchdog.mean gaps, Watchdog.deviation gaps, Watchdog.largest gaps⟩

end Heartbeat.Watchdog
