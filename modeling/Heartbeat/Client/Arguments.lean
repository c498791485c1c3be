import Heartbeat.Config
import Heartbeat.Text.Numeral
import Heartbeat.Text.Quoted

/-!
# Arguments of the sending command

The arguments are pairs of a flag and a value. A scan from left to right takes every second
token for a flag and whatever follows it for the value, even when that looks like a flag itself;
it fails at the first token that is no flag or has nothing after it. It passes each pair on as one
token, with an equals sign between flag and value. Only then are these tokens taken apart and the
values read, again from left to right, a later value of a flag replacing an earlier one, and only
the resulting settings are checked for their ranges.

Arguments with a value that is a lone double dash are left out here. Such a value is an ordinary one
in this module, while the parser of the watching command loses it and leaves the setting void
(`Watch.Options.assign`), as parsers of options do.
-/

namespace Heartbeat.Client

/-- The settings that can be given as arguments. -/
inductive Flag where
  | server
  | port
  | count
  | interval
  | retries
  | retryBackoff
  deriving DecidableEq, Repr

namespace Flag

/-- How a flag is written. There is no other way to write it. -/
def text : Flag → String
  | server => "-s"
  | port => "-p"
  | count => "-c"
  | interval => "--interval"
  | retries => "--retries"
  | retryBackoff => "--retry-backoff"

def all : List Flag := [server, port, count, interval, retries, retryBackoff]

/-- The flag that a token is, if it is one. -/
def ofText? (token : String) : Option Flag := all.find? fun flag => flag.text = token

end Flag

/-- A flag with its value as text. -/
structure Assignment where
  flag : Flag
  value : String
  deriving DecidableEq, Repr

namespace Assignment

/-- The assignment as a single token. -/
def token (assignment : Assignment) : String := assignment.flag.text ++ "=" ++ assignment.value

/-- The assignment that a token stands for: what is before its first equals sign is the flag. -/
def ofToken? (token : String) : Option Assignment :=
  match Flag.ofText? (String.ofList (token.toList.takeWhile (· ≠ '='))),
      token.toList.dropWhile (· ≠ '=') with
  | some flag, _ :: value => some ⟨flag, String.ofList value⟩
  | _, _ => none

end Assignment

/-- What is wrong with the arguments. -/
inductive ArgumentError where
  | missing
  | unknownToken (token : String)
  | missingValue (flag : Flag)
  | notAnInteger (flag : Flag) (value : String)
  | notANumber (flag : Flag) (value : String)
  | outOfRange (error : RangeError)
  deriving DecidableEq

/-- What is shown to a user who gives no arguments at all. -/
def usage : String :=
  "Usage:\n udp_client -s \x7bip_address\x7d -p \x7budp_port\x7d [-c \x7bpackets\x7d]"

namespace ArgumentError

def message : ArgumentError → String
  | missing => usage
  | unknownToken token => "Invalid: " ++ token
  | missingValue flag => "option " ++ flag.text ++ " requires a value"
  | notAnInteger flag value =>
    "argument " ++ flag.text ++ ": invalid int value: " ++ Text.quoted value
  | notANumber flag value =>
    "argument " ++ flag.text ++ ": invalid float value: " ++ Text.quoted value
  | outOfRange error => error.message

/-- The unknown token, where that is what is wrong. -/
def token? : ArgumentError → Option String
  | unknownToken token => some token
  | _ => none

end ArgumentError

/-- Pairs each flag with the token after it. -/
def scan : List String → Except ArgumentError (List Assignment)
  | [] => .ok []
  | token :: rest =>
    match Flag.ofText? token, rest with
    | none, _ => .error (.unknownToken token)
    | some flag, [] => .error (.missingValue flag)
    | some flag, value :: rest => (scan rest).map (⟨flag, value⟩ :: ·)

/-- The tokens that the scan passes on. -/
def scanTokens (arguments : List String) : Except ArgumentError (List String) :=
  (scan arguments).map (List.map Assignment.token)

/-- Takes a token apart again. -/
def readToken (token : String) : Except ArgumentError Assignment :=
  match Assignment.ofToken? token with
  | some assignment => .ok assignment
  | none => .error (.unknownToken token)

def readInt (flag : Flag) (value : String) : Except ArgumentError Int :=
  match Text.int? value with
  | some number => .ok number
  | none => .error (.notAnInteger flag value)

def readNumber (flag : Flag) (value : String) : Except ArgumentError Binary64 :=
  match Text.binary64? value with
  | some number => .ok number
  | none => .error (.notANumber flag value)

/-- The settings with one of them replaced. -/
def assign (settings : Settings) (assignment : Assignment) : Except ArgumentError Settings :=
  let value := assignment.value
  match assignment.flag with
  | .server => .ok { settings with server := value }
  | .port => (readInt .port value).map ({ settings with port := · })
  | .count => (readInt .count value).map ({ settings with count := · })
  | .interval => (readNumber .interval value).map ({ settings with interval := · })
  | .retries => (readInt .retries value).map ({ settings with retries := · })
  | .retryBackoff => (readNumber .retryBackoff value).map ({ settings with retryBackoff := · })

/-- The configuration that the arguments describe. -/
def parse (arguments : List String) : Except ArgumentError Config :=
  if arguments = [] then .error .missing
  else do
    let assignments ← (← scanTokens arguments).mapM readToken
    let settings ← assignments.foldlM assign {}
    settings.check.mapError .outOfRange

end Heartbeat.Client
