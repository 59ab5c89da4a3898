import Heartbeat.Text.Radix

/-!
# Bus faults

What a simulated access can run into: an address no model serves (or a model refuses), an
address that is not a multiple of four, and a write to a peripheral whose clock is off. Faults
are data: the bus logs them and goes on.

* `Fault`, `Fault.message`;
* `PinState` : how a pin is configured and driven.
-/

namespace Heartbeat

inductive Fault where
  | memoryViolation (addr : UInt32)
  | unaligned (addr : UInt32)
  | clockDisabled (peripheral : String) (addr value : UInt32)
  deriving DecidableEq, Repr

def Fault.message : Fault → String
  | .memoryViolation a => s!"Memory access violation at {Text.hexWord a}"
  | .unaligned a => s!"Unaligned 32-bit access at {Text.hexWord a}"
  | .clockDisabled p a v =>
    s!"Write of {Text.hexWord v} to {Text.hexWord a} while '{p}' clock is disabled"

/-- A pin of a port: whether it is configured as a general purpose output, and the level its
output data bit drives. -/
structure PinState where
  output : Bool
  level : Bool
  deriving DecidableEq, Repr

end Heartbeat
