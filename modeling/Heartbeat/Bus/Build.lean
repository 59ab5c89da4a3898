import Heartbeat.Bus.Basic
import Heartbeat.Profile.Validate

/-!
# A bus from a board profile

The bus a validated profile describes: one window per declared peripheral, in declaration
order, with its model (built from its kind, layout and window size), its clock gate and its
reset values forced once. A profile that declares no peripheral gets one 4-byte plain memory
window, ungated, at each distinct LED register, named `reg@` and the register's display.

* `BusError`, `BusError.message`;
* `Bus.fromProfile`.
-/

namespace Heartbeat

inductive BusError where
  /-- The profile fails validation. -/
  | profile (e : ProfileError)
  /-- A peripheral's model cannot be built. -/
  | build (id : String) (e : BuildError)
  /-- A peripheral's model refuses one of its reset values. -/
  | resetValue (id : String) (f : Fault)
  deriving DecidableEq, Repr

def BusError.message : BusError → String
  | .profile e => e.message
  | .build id e => s!"Failed to build peripheral '{id}': {e.message}"
  | .resetValue id f => s!"Invalid reset value for peripheral '{id}': {f.message}"

namespace Bus

/-- The window of a declared peripheral, its reset values forced. -/
def windowOf (p : PeripheralSpec) : Except BusError Window := do
  let size ← match p.windowSize with
    | .ok s => pure s
    | .error e => throw (.profile (.badSize p.id e))
  let device ← match Device.build p.kind p.layout size with
    | .ok d => pure d
    | .error e => throw (.build p.id e)
  let gate := p.gate.bind fun g => ClockGate.bit? ⟨g.register⟩ g.bit
  let w : Window := ⟨p.id, p.base, size, gate, p.resetValues.entries, device⟩
  match presetAll device p.resetValues.entries with
  | (d, none) => pure { w with device := d }
  | (_, some f) => throw (.resetValue p.id f)

/-- The distinct LED registers, in increasing order. -/
def ledRegisters (led : LedSpec) : List UInt32 :=
  let c := led.clock.register
  let m := led.mode.register
  let o := led.output.register
  ([c, m, o].mergeSort fun a b => decide (a ≤ b)).eraseDups

/-- A 4-byte plain memory window at a register. -/
def memoryCell (addr : UInt32) : Window :=
  ⟨"reg@" ++ Text.hexWord addr, addr, 4, none, [], .memory (Memory.init 4)⟩

/-- The bus of a profile, after validating it. -/
def fromProfile {ω : Type} (p : Profile) (watch : ω) : Except BusError (Bus ω) := do
  match p.validate with
  | .error e => throw (.profile e)
  | .ok () => pure ()
  let windows ← p.peripherals.mapM windowOf
  let windows := if windows.isEmpty then (ledRegisters p.led).map memoryCell else windows
  pure { Bus.empty p.name watch with windows }

end Bus

end Heartbeat
