import Heartbeat.Text.Numeral
import Heartbeat.Text.Quoted

/-!
# Options of the watching command

Every setting has a long name, which may be cut short as long as only one name begins that way,
and some have a letter. A value follows in the next argument or, after an equals sign, in the
same one; after a letter it may follow directly, and letters without a value may be run together.
An equals sign behind letters that are run together belongs to the value.
A value that is an argument of its own must not look like an option, unless it looks like a
negative number or contains a space. After a lone double dash nothing is an option. A lone double
dash in the place of a value leaves the setting void, until a later value takes its place.

Arguments are first sorted into options and values, one by one. Then the options are carried out
from left to right, and whatever was not used up is reported at the end.
-/

namespace Heartbeat.Watch

/-- For how long the command watches. -/
inductive Duration where
  | unlimited
  | seconds (duration : Binary64)
  /-- The duration was given without a value. -/
  | void
  deriving DecidableEq

/-- What the user of the watching command can set. A setting that was given without a value has
none. -/
structure Options where
  port : Option Int := some 5556
  host : Option String := some "0.0.0.0"
  maxAge : Option Binary64 := some 5
  duration : Duration := .unlimited
  verbose : Bool := false
  deriving DecidableEq

/-- The settings, and the request for help. -/
inductive Setting where
  | help
  | port
  | host
  | maxAge
  | duration
  | verbose
  deriving DecidableEq, Repr

namespace Setting

/-- All ways to write a setting in full, in the order in which they are documented. -/
def spellings : List (String × Setting) :=
  [("-h", help), ("--help", help), ("-p", port), ("--port", port), ("-b", host), ("--bind", host),
    ("--max-age", maxAge), ("--duration", duration), ("-v", verbose), ("--verbose", verbose)]

/-- How a setting is named in messages. -/
def name (setting : Setting) : String :=
  "/".intercalate ((spellings.filter (·.2 = setting)).map Prod.fst)

def takesValue : Setting → Bool
  | help | verbose => false
  | port | host | maxAge | duration => true

/-- The setting that is written exactly so. -/
def ofSpelling? (text : String) : Option Setting := spellings.lookup text

/-- The setting with this letter. -/
def ofLetter? (letter : Char) : Option Setting := ofSpelling? (.ofList ['-', letter])

end Setting

/-- Why no options come out of the arguments. -/
inductive Refusal where
  | helpWanted
  | ambiguous (text : String) (candidates : List String)
  | valueMissing (setting : Setting)
  | valueUnwanted (setting : Setting) (value : String)
  | notAnInteger (setting : Setting) (value : String)
  | notANumber (setting : Setting) (value : String)
  | leftOver (texts : List String)
  deriving DecidableEq

/-- What an argument can be. -/
inductive Token where
  /-- Not an option: the value of one, or left over. -/
  | value (text : String)
  /-- A setting, by its long name or by its letter, with what is attached to it. -/
  | option (setting : Setting) (long : Bool) (attached : Option String)
  /-- Something that looks like an option and is none, or a lone double dash. -/
  | stray (text : String)
  deriving DecidableEq

namespace Token

/-- The text before the first equals sign, and the text after it if there is one. -/
def cutAtEquals (text : List Char) : List Char × Option String :=
  match text.dropWhile (· ≠ '=') with
  | [] => (text, none)
  | _ :: rest => (text.takeWhile (· ≠ '='), some (.ofList rest))

/-- Is this the long form of a name? -/
def isLong : List Char → Bool
  | '-' :: '-' :: _ => true
  | _ => false

/-- A minus and decimal digits of any script, possibly with a point that has digits after it; a
line end may follow. -/
def looksNegative : List Char → Bool
  | '-' :: rest =>
    let isDigit (c : Char) : Bool := (Text.digitValue? c).isSome
    let body := if rest.getLast? = some '\n' then rest.dropLast else rest
    match body.dropWhile isDigit with
    | [] => body ≠ []
    | '.' :: fraction => fraction ≠ [] && fraction.all isDigit
    | _ => false
  | _ => false

/-- The spellings that a text that is none itself may stand for, each with what the text attaches
to it: by the long names it begins, or by its letter. -/
def candidates (text : List Char) : List (String × Setting × Option String) :=
  if isLong text then
    let (start, attached) := cutAtEquals text
    (Setting.spellings.filter fun (spelling, _) => start.isPrefixOf spelling.toList).map
      fun (spelling, setting) => (spelling, setting, attached)
  else
    (Setting.spellings.filter fun (spelling, _) => spelling.toList = text.take 2).map
      fun (spelling, setting) => (spelling, setting, some (.ofList (text.drop 2)))

/-- Sorts an argument that is not a lone double dash. -/
def ofText (text : String) : Except Refusal Token :=
  let chars := text.toList
  if chars.head? ≠ some '-' then .ok (.value text)
  else match Setting.ofSpelling? text with
    | some setting => .ok (.option setting (isLong chars) none)
    | none =>
      if text = "-" then .ok (.value text)
      else
        let (start, attached) := cutAtEquals chars
        match attached, Setting.ofSpelling? (.ofList start) with
        | some attached, some setting => .ok (.option setting (isLong start) (some attached))
        | _, _ =>
          match candidates chars with
          | [(spelling, setting, attached)] =>
            .ok (.option setting (isLong spelling.toList) attached)
          | [] =>
            if looksNegative chars || chars.contains ' ' then .ok (.value text)
            else .ok (.stray text)
          | several => .error (.ambiguous text (several.map Prod.fst))

/-- Sorts the arguments. -/
def ofArguments : List String → Except Refusal (List Token)
  | [] => .ok []
  | text :: rest =>
    if text = "--" then .ok (.stray text :: rest.map .value)
    else do
      let token ← ofText text
      let tokens ← ofArguments rest
      return token :: tokens

end Token

/-- Takes letters apart that are run together after the letter of a setting without a value: the
settings before the last one, the last one, and what is attached to that. -/
def takeApart (setting : Setting) :
    List Char → Except Refusal (List Setting × Setting × Option String)
  | [] => .error (.valueUnwanted setting "")
  | letter :: rest =>
    match Setting.ofLetter? letter with
    | none => .error (.valueUnwanted setting (.ofList (letter :: rest)))
    | some next =>
      if rest = [] then .ok ([setting], next, none)
      else if next.takesValue then .ok ([setting], next, some (.ofList rest))
      else (takeApart next rest).map fun (settings, last) => (setting :: settings, last)

/-- The settings that an option stands for, the last of them with what is attached to it. -/
def opened (setting : Setting) (long : Bool) (attached : Option String) :
    Except Refusal (List Setting × Setting × Option String) :=
  match attached with
  | none => .ok ([], setting, none)
  | some text =>
    if setting.takesValue then .ok ([], setting, some text)
    else if long then .error (.valueUnwanted setting text)
    else takeApart setting text.toList

namespace Options

/-- Carries out a setting without a value. -/
def switch (options : Options) (setting : Setting) : Except Refusal Options :=
  match setting with
  | .help => .error .helpWanted
  | .verbose => .ok { options with verbose := true }
  | _ => .ok options

def readInt (setting : Setting) (value : String) : Except Refusal Int :=
  match Text.int? value with
  | some number => .ok number
  | none => .error (.notAnInteger setting value)

def readNumber (setting : Setting) (value : String) : Except Refusal Binary64 :=
  match Text.binary64? value with
  | some number => .ok number
  | none => .error (.notANumber setting value)

/-- Leaves a setting void. -/
def clear (options : Options) (setting : Setting) : Options :=
  match setting with
  | .port => { options with port := none }
  | .host => { options with host := none }
  | .maxAge => { options with maxAge := none }
  | .duration => { options with duration := .void }
  | .help | .verbose => options

/-- What stands in the place of a value that is not there. -/
def noValue : String := "--"

/-- Carries out a setting with a value, or with what stands in its place. -/
def assign (options : Options) (setting : Setting) (value : String) : Except Refusal Options :=
  if value = noValue then .ok (options.clear setting)
  else match setting with
    | .port => (readInt setting value).map ({ options with port := some · })
    | .host => .ok { options with host := some value }
    | .maxAge => (readNumber setting value).map ({ options with maxAge := some · })
    | .duration => (readNumber setting value).map ({ options with duration := .seconds · })
    | .help | .verbose => .ok options

/-- Carries out the options in order and collects what is left over. -/
def carryOut (options : Options) (leftOver : List String) :
    List Token → Except Refusal Options
  | [] => if leftOver = [] then .ok options else .error (.leftOver leftOver)
  | .value text :: rest | .stray text :: rest => carryOut options (leftOver ++ [text]) rest
  | .option setting long attached :: rest => do
    let (switches, last, attached) ← opened setting long attached
    if last.takesValue then
      match attached, rest with
      | some value, rest =>
        let options ← switches.foldlM switch options
        carryOut (← options.assign last value) leftOver rest
      | none, .value value :: rest =>
        let options ← switches.foldlM switch options
        carryOut (← options.assign last value) leftOver rest
      | none, _ => .error (.valueMissing last)
    else
      let options ← switches.foldlM switch options
      carryOut (← options.switch last) leftOver rest

/-- The options that the arguments describe. -/
def parse (arguments : List String) : Except Refusal Options := do
  carryOut {} [] (← Token.ofArguments arguments)

end Options

/-! ## What a refusal shows -/

def usage : String :=
  "usage: udp_watch [-h] [-p PORT] [-b BIND] [--max-age MAX_AGE]\n" ++
  "                 [--duration DURATION] [-v]\n"

def help : String :=
  usage ++ "\n" ++
  "Heartbeat watchdog: mark nodes live when they send a UDP datagram.\n\n" ++
  "options:\n" ++
  "  -h, --help            show this help message and exit\n" ++
  "  -p PORT, --port PORT  UDP port to listen on.\n" ++
  "  -b BIND, --bind BIND  Local address to bind.\n" ++
  "  --max-age MAX_AGE     Seconds after which a silent node is dropped.\n" ++
  "  --duration DURATION   Stop after this many seconds (default: run until\n" ++
  "                        Ctrl+C).\n" ++
  "  -v, --verbose         Print the payload of every heartbeat.\n"

namespace Refusal

def message : Refusal → String
  | helpWanted => ""
  | ambiguous text candidates =>
    "ambiguous option: " ++ text ++ " could match " ++ ", ".intercalate candidates
  | valueMissing setting => "argument " ++ setting.name ++ ": expected one argument"
  | valueUnwanted setting value =>
    "argument " ++ setting.name ++ ": ignored explicit argument " ++ Text.quoted value
  | notAnInteger setting value =>
    "argument " ++ setting.name ++ ": invalid int value: " ++ Text.quoted value
  | notANumber setting value =>
    "argument " ++ setting.name ++ ": invalid float value: " ++ Text.quoted value
  | leftOver texts => "unrecognized arguments: " ++ " ".intercalate texts

/-- Asking for help is no error; every other refusal is one of usage. -/
def exitCode : Refusal → Nat
  | helpWanted => 0
  | _ => 2

def output : Refusal → String
  | helpWanted => help
  | _ => ""

def errorOutput : Refusal → String
  | helpWanted => ""
  | refusal => usage ++ "udp_watch: error: " ++ refusal.message ++ "\n"

end Refusal

end Heartbeat.Watch
