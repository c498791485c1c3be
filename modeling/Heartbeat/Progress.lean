import Heartbeat.Binary64.Fixed

/-!
# Progress of a run

After each datagram a line shows how much of the run is done, as a whole percentage: of three
datagrams the first shows 0, the second 33 and the third 66. The hundred is reserved for a line
of its own at the end of a complete run.
-/

namespace Heartbeat.Progress

/-- The share of the run that lies before position `index`, in whole percent. Nothing is left to
do in a run without datagrams. The result is missing when it is too large for a number. -/
def percent? (index count : Int) : Option Binary64 :=
  if count ≤ 0 then some 100
  else match Binary64.ofInt (Int.fdiv (index * 100) count) with
    | .infinity _ => none
    | percent => some percent

/-- The text of a percentage. -/
def format (percent : Binary64) : String := percent.fixed 2 ++ " %"

/-- The line shown after the datagram at position `index` of a run. The percentage of a position
within its run is below a hundred, so it is always there. -/
def line (index count : Nat) : String :=
  format ((percent? index count).getD .nan)

/-- The line shown at the end of a complete run. -/
def completeLine : String := "100.00 %"

end Heartbeat.Progress
