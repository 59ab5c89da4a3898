import Heartbeat.Profile.Decode

/-!
# Simulation settings

How a session runs: the cycles one busy-wait iteration costs, a delay count replacing the
board's, whether clock gating drops writes, and whether a run stops at the first step that
left a fault. Read from a document by the same rules as profiles; every field has a default
and unknown fields are ignored.

* `SimConfig`, `SimConfig.default`, `SimConfig.decode?`, `SimConfig.delayFor`.
-/

namespace Heartbeat

structure SimConfig where
  nopCycles : UInt32
  delayOverride : Option UInt32
  clockGating : Bool
  stopOnFault : Bool
  deriving DecidableEq, Repr

namespace SimConfig

/-- One cycle per iteration, the board's delay, gating on, no stop at faults. -/
def default : SimConfig := ⟨1, none, true, false⟩

def delayFor (c : SimConfig) (board : UInt32) : UInt32 := c.delayOverride.getD board

def decode? {α : Type} [Source α] (v : α) : Option SimConfig :=
  (Source.record ["nop_cycles", "delay_override", "clock_gating", "stop_on_fault"] false
    (fun fs => do
      let nopCycles ← fs.withDefault 0 "nop_cycles" 1 Source.u32
      let delayOverride ← fs.withDefault 1 "delay_override" none (Source.optional Source.u32)
      let clockGating ← fs.withDefault 2 "clock_gating" true Source.flag
      let stopOnFault ← fs.withDefault 3 "stop_on_fault" false Source.flag
      pure ⟨nopCycles, delayOverride, clockGating, stopOnFault⟩) v).counted.map (·.1)

end SimConfig

end Heartbeat
