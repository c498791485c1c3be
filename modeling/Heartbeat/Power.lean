/-!
# Powers of natural numbers

The powers in this library are those that the compiler computes. The instance below is preferred
over every other one, so that a power means the same in a module about numbers and in one that
knows powers in general.
-/

namespace Heartbeat

@[default_instance 20000]
instance (priority := high) natPow : Pow Nat Nat := instPowNat

end Heartbeat
