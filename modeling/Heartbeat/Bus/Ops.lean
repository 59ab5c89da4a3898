import Heartbeat.Bus.Basic

/-!
# Operations on a bus

What a client can do to a bus, as data: reads and writes through the register interface and its
read-modify-writes, direct writes that take no cycle, switching clock gating, emptying the fault
log, reporting a busy-wait, and a power-on reset. Applying them in order gives the buses a client
can reach from a first one. Queries that change nothing (`peek`, `readWord`, `pinState`,
`snapshot`) are not operations.

* `BusOp`, `Bus.perform`, `Bus.performAll`.
-/

namespace Heartbeat

inductive BusOp where
  | read (addr : UInt32)
  | write (addr value : UInt32)
  | setBits (addr mask : UInt32)
  | clearBits (addr mask : UInt32)
  | toggleBits (addr mask : UInt32)
  /-- A write without a cycle, a report or a log entry. -/
  | writeWord (addr value : UInt32)
  | setClockGating (enabled : Bool)
  | clearFaults
  | notifyDelay (iterations : UInt64)
  | reset
  deriving DecidableEq, Repr

namespace Bus

variable {ω : Type} [Observer ω]

/-- The bus after one operation. A direct write that faults changes nothing, and one whose search
overflows stops the bus; a reset's refused reset value is left to its answer. -/
def perform (b : Bus ω) : BusOp → Bus ω
  | .read a => (b.read a).2
  | .write a v => b.write a v
  | .setBits a m => RegisterBus.setBits b ⟨a⟩ m
  | .clearBits a m => RegisterBus.clearBits b ⟨a⟩ m
  | .toggleBits a m => RegisterBus.toggleBits b ⟨a⟩ m
  | .writeWord a v =>
    match b.writeWord a v with
    | .ok (.ok b') => b'
    | .ok (.error _) => b
    | .error e => b.halt e
  | .setClockGating enabled => { b with gating := enabled }
  | .clearFaults => b.clearFaults
  | .notifyDelay n => b.notifyDelay n
  | .reset => b.reset.1

def performAll (b : Bus ω) (ops : List BusOp) : Bus ω :=
  ops.foldl perform b

end Bus

end Heartbeat
