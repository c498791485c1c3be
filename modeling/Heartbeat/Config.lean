import Heartbeat.Binary64.Shortest

/-!
# Settings of a run

Settings are what a user asks for, any integers and numbers; a configuration is what a run can be
started with. The step between them checks the five ranges in a fixed order and names the first
one that is left. A number that is not a number, and the negative zero, lie in every range.
-/

namespace Heartbeat

/-- What a user asks for. The defaults send ten datagrams, one per second, and give up at the
first failure. -/
structure Settings where
  server : String := "127.0.0.1"
  port : Int := 5556
  count : Int := 10
  interval : Binary64 := 1
  retries : Int := 0
  retryBackoff : Binary64 := 0.5
  deriving DecidableEq

/-- Settings that a run can be started with. -/
structure Config where
  server : String
  port : Nat
  port_le : port ≤ 65535
  count : Nat
  interval : Binary64
  interval_not_negative : ¬ interval < 0
  retries : Nat
  retryBackoff : Binary64
  retryBackoff_not_negative : ¬ retryBackoff < 0

/-- The setting that lies out of range. -/
inductive RangeError where
  | port (value : Int)
  | count (value : Int)
  | interval (value : Binary64)
  | retries (value : Int)
  | retryBackoff (value : Binary64)
  deriving DecidableEq

def RangeError.message : RangeError → String
  | port value => "port out of range 0..65535: " ++ toString value
  | count value => "packet count must be >= 0: " ++ toString value
  | interval value => "interval must be >= 0: " ++ value.shortest
  | retries value => "retries must be >= 0: " ++ toString value
  | retryBackoff value => "retry backoff must be >= 0: " ++ value.shortest

namespace Settings

/-- The configuration that the settings describe, or the first setting out of range. -/
def check (settings : Settings) : Except RangeError Config :=
  if hport : 0 ≤ settings.port ∧ settings.port ≤ 65535 then
    if settings.count < 0 then .error (.count settings.count)
    else if hinterval : settings.interval < 0 then .error (.interval settings.interval)
    else if settings.retries < 0 then .error (.retries settings.retries)
    else if hbackoff : settings.retryBackoff < 0 then .error (.retryBackoff settings.retryBackoff)
    else .ok {
      server := settings.server
      port := settings.port.toNat
      port_le := by omega
      count := settings.count.toNat
      interval := settings.interval
      interval_not_negative := hinterval
      retries := settings.retries.toNat
      retryBackoff := settings.retryBackoff
      retryBackoff_not_negative := hbackoff }
  else .error (.port settings.port)

end Settings

namespace Config

/-- The configuration as settings. -/
def settings (config : Config) : Settings where
  server := config.server
  port := config.port
  count := config.count
  interval := config.interval
  retries := config.retries
  retryBackoff := config.retryBackoff

/-- The line shown before a run. -/
def summary (config : Config) : String :=
  "Server: " ++ config.server ++ ", port: " ++ toString config.port ++
    ", packets: " ++ toString config.count

end Config

end Heartbeat
