import Heartbeat.Client.Arguments
import Heartbeat.Sender.Rehearsal

/-!
# The sending command

The command reads its arguments, shows what it is going to do, sets a sender up and runs it. An
argument error, and every error of the sender that it reports, ends it with one message and exit
code 1; a run that was cut short by a stop request has an exit code of its own.
-/

namespace Heartbeat.Client

def exitOk : Nat := 0
def exitFailure : Nat := 1
def exitInterrupted : Nat := 130

variable {m : Type → Type} [Monad m] (surroundings : Surroundings m)

/-- Report an argument error: an unknown token to whoever reads the output, everything else to
the standard error output. -/
def reportArguments (error : ArgumentError) : m Unit :=
  match error with
  | .unknownToken _ => surroundings.print (error.message ++ "\n")
  | .missing => surroundings.complain (error.message ++ "\n")
  | _ => surroundings.complain ("udp_client: " ++ error.message ++ "\n")

/-- Report an error of the sender, or let it escape. -/
def reportSender (error : SenderError) : m (Ending SenderError) := do
  if error.isReported then
    surroundings.complain (error.message ++ "\n")
    return .exit exitFailure
  else
    return .escape error

/-- Run the command with the given arguments. -/
def run (arguments : List String) : m (Ending SenderError) := do
  match parse arguments with
  | .error error =>
    reportArguments surroundings error
    return .exit exitFailure
  | .ok config =>
    surroundings.print (config.summary ++ "\n")
    match ← Sender.create surroundings config (Sender.defaultPolicy config) false with
    | .error error => reportSender surroundings error
    | .ok sender =>
      match ← sender.run surroundings with
      | (.error error, _) => reportSender surroundings error
      | (.ok sent, sender) =>
        if sender.interrupted then
          surroundings.complain ("interrupted after " ++ toString sent ++ " packets\n")
          return .exit exitInterrupted
        else
          return .exit exitOk

/-- The whole command in a rehearsal. -/
def rehearse (arguments : List String) (script : Script) : Report SenderError :=
  let (ending, stage) := run (rehearsal false) arguments { script }
  .ofEvents ending stage.events.toList

end Heartbeat.Client
