import Heartbeat.Fault

/-!
# Failures of the watching command

A setting may be given without a value, and it is then void. Nothing is wrong with that until the
command needs the value that is not there. This ends it without a summary, as a fault of its socket
does, and so does an address that a socket does not even try to be bound to.
-/

namespace Heartbeat.Watch

/-- Why a host and a port are no address. -/
inductive AddressError where
  | hostVoid
  /-- The host goes beyond ASCII, and the network has no name for it. -/
  | hostNotEncoded
  | hostWithNull
  | portOutOfRange
  deriving DecidableEq

namespace AddressError

def message : AddressError → String
  | hostVoid => "str, bytes or bytearray expected, not list"
  | hostNotEncoded => "encoding of hostname failed"
  | hostWithNull => "host name must not contain null character"
  | portOutOfRange => "bind(): port must be 0-65535."

end AddressError

/-- Why the command cannot go on. -/
inductive Failure where
  | fault (fault : Fault)
  | portVoid
  | address (error : AddressError)
  | maxAgeVoid
  | durationVoid
  deriving DecidableEq

namespace Failure

def message : Failure → String
  | fault cause => cause.fullText
  | portVoid =>
    "int() argument must be a string, a bytes-like object or a real number, not 'list'"
  | address error => error.message
  | maxAgeVoid | durationVoid => "float() argument must be a string or a real number, not 'list'"

end Failure

end Heartbeat.Watch
