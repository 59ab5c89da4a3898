import Heartbeat.Target
import Heartbeat.Register

/-!
# The blink loop

The control loop of a heartbeat LED, over any register bus that can also spin:

* `configure` runs once, from `uninitialized`: it sets the clock-enable bit, clears the pin's
  mode field and then sets the mode bits (three read-modify-writes), and ends `blinking`;
* `toggle` configures first unless already blinking, then flips the output bit;
* `step` toggles, then spins the target's delay count.

The `configuring` phase only exists inside `configure`; between operations the blinker is
`uninitialized` or `blinking`.

* `Phase`, `Spin`, `Blinker`, `Blinker.configure`, `toggle`, `step`.
-/

namespace Heartbeat

inductive Phase where
  | uninitialized
  | configuring
  | blinking
  deriving DecidableEq, Repr

/-- A machine that can busy-wait. `nop` is one iteration; `spin` a wait of `count` iterations,
done at once, and the same as `count` iterations one by one. -/
class Spin (μ : Type) where
  nop : μ → μ
  spin : μ → UInt32 → μ
  spin_eq_repeat : ∀ m count, spin m count = Nat.repeat nop count.toNat m

structure Blinker where
  target : BlinkTarget
  phase : Phase
  deriving DecidableEq, Repr

namespace Blinker

variable {μ : Type}

def start (target : BlinkTarget) : Blinker := ⟨target, .uninitialized⟩

/-- The one-time configuration: clock on, then the mode field cleared and set. Does nothing
once it has run. -/
def configure [RegisterBus μ] (k : Blinker) (m : μ) : Blinker × μ :=
  if k.phase ≠ .uninitialized then (k, m) else
  let t := k.target
  let m := RegisterBus.setBits m t.clock.register t.clock.mask
  let m := RegisterBus.clearBits m t.mode.register t.mode.mask
  let m := RegisterBus.setBits m t.mode.register t.mode.bits
  ({ k with phase := .blinking }, m)

/-- Flips the output bit, configuring first if that has not happened. -/
def toggle [RegisterBus μ] (k : Blinker) (m : μ) : Blinker × μ :=
  let (k, m) := if k.phase ≠ .blinking then k.configure m else (k, m)
  (k, RegisterBus.toggleBits m k.target.output.register k.target.output.mask)

/-- One loop iteration: toggle, then spin the delay count. -/
def step [RegisterBus μ] [Spin μ] (k : Blinker) (m : μ) : Blinker × μ :=
  let (k, m) := k.toggle m
  (k, Spin.spin m k.target.delayCount)

end Blinker

end Heartbeat
