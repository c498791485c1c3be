import Heartbeat.Power
import Heartbeat.Rounding
import Heartbeat.Binary64.Basic
import Heartbeat.Binary64.Fixed
import Heartbeat.Binary64.Shortest
import Heartbeat.Text.Blank
import Heartbeat.Text.Digit
import Heartbeat.Text.Printable
import Heartbeat.Text.Quoted
import Heartbeat.Text.Numeral
import Heartbeat.Fault
import Heartbeat.Address
import Heartbeat.Config
import Heartbeat.Progress
import Heartbeat.RetryPolicy
import Heartbeat.Event
import Heartbeat.Sender.Basic
import Heartbeat.Sender.Rehearsal
import Heartbeat.Client.Arguments
import Heartbeat.Client.Command
import Heartbeat.Watchdog.Statistics
import Heartbeat.Watchdog.Basic
import Heartbeat.Watchdog.Summary
import Heartbeat.Watchdog.Session
import Heartbeat.Watch.Failure
import Heartbeat.Watch.Listener
import Heartbeat.Watch.Notice
import Heartbeat.Watch.Options
import Heartbeat.Watch.Command
import Heartbeat.Main
import Heartbeat.Proofs.Log
import Heartbeat.Proofs.RunRules
import Heartbeat.Proofs.RunLog
import Heartbeat.Proofs.NearestNumber
import Heartbeat.Proofs.NumberOrder
import Heartbeat.Proofs.ProgressLine
import Heartbeat.Proofs.FirstRun
import Heartbeat.Proofs.Unstopped
import Heartbeat.Proofs.FirstStop
import Heartbeat.Proofs.Truncation
import Heartbeat.Proofs.WatchdogNodes
import Heartbeat.Proofs.WatchdogTables
import Heartbeat.Proofs.LiveNodes
import Heartbeat.Proofs.ClientResult
import Heartbeat.Proofs.History
import Heartbeat.Proofs.Refusals
import Heartbeat.Proofs.TallyRecord
import Heartbeat.Proofs.RepeatedRuns
import Heartbeat.Proofs.LongPauses
import Heartbeat.Proofs.RetryBudget
import Heartbeat.Proofs.CommandFailures
import Heartbeat.Proofs.ArgumentMeaning
import Heartbeat.Proofs.NodeIsolation
import Heartbeat.Proofs.SocketRelease
import Heartbeat.Proofs.WatchRounds
import Heartbeat.Proofs.ListenerRelease
import Heartbeat.Proofs.NodeReports
import Heartbeat.Proofs.OutputLines
import Heartbeat.Proofs.Pacing
import Heartbeat.Proofs.AddedOptions
import Heartbeat.Proofs.Spellings
import Heartbeat.Proofs.ChosenOptions
import Heartbeat.Proofs.Deadline
import Heartbeat.Proofs.AddressGrammar
import Heartbeat.Proofs.NumberText
import Heartbeat.Proofs.WrittenArguments
import Heartbeat.Proofs.AddressNormalForm
import Heartbeat.Proofs.ArrivalWindow
import Heartbeat.Proofs.SummaryCounts
import Heartbeat.Proofs.NearestQuotient
import Heartbeat.Proofs.WholeNumbers
import Heartbeat.Proofs.SumOrder
import Heartbeat.Proofs.Magnitudes
import Heartbeat.Proofs.GapStatistics
import Heartbeat.Proofs.PairTokens
import Heartbeat.Proofs.ProgressSteps
import Heartbeat.Proofs.FixedPlaces
import Heartbeat.Proofs.DoublingDelays
import Heartbeat.Proofs.WaitLimit
