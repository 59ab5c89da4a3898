import Heartbeat.Device.Basic

/-!
# Operations on a peripheral model

What a bus does to the model behind a window, as data: a write, a forced value and a power-on
reset. Applying them in order gives the models a window can reach from a fresh one. A write or a
forced value that the model refuses leaves it as it was; reads change nothing and are not
operations.

* `DeviceOp`, `Device.perform`, `Device.performAll`.
-/

namespace Heartbeat

/-- One call of the peripheral interface that can change a model. -/
inductive DeviceOp where
  | write (offset value : UInt32)
  | preset (offset value : UInt32)
  | reset
  deriving DecidableEq, Repr

namespace Device

/-- The model after one operation; a refused write or forced value changes nothing. -/
def perform (d : Device) : DeviceOp → Device
  | .write off v =>
    match d.write off v with
    | .ok d' => d'
    | .error _ => d
  | .preset off v =>
    match d.preset off v with
    | .ok d' => d'
    | .error _ => d
  | .reset => d.reset

def performAll (d : Device) (ops : List DeviceOp) : Device :=
  ops.foldl perform d

@[simp] theorem performAll_nil (d : Device) : d.performAll [] = d := rfl

@[simp] theorem performAll_cons (d : Device) (op : DeviceOp) (ops : List DeviceOp) :
    d.performAll (op :: ops) = (d.perform op).performAll ops := rfl

/-! A port and a block take every operation. -/

@[simp] theorem perform_gpio_write (g : Gpio) (off v : UInt32) :
    (Device.gpio g).perform (.write off v) = .gpio (g.write off v) := rfl

@[simp] theorem perform_gpio_preset (g : Gpio) (off v : UInt32) :
    (Device.gpio g).perform (.preset off v) = .gpio (g.preset off v) := rfl

@[simp] theorem perform_gpio_reset (g : Gpio) : (Device.gpio g).perform .reset = .gpio g.reset :=
  rfl

@[simp] theorem perform_rcc_write (r : Rcc) (off v : UInt32) :
    (Device.rcc r).perform (.write off v) = .rcc (r.write off v) := rfl

@[simp] theorem perform_rcc_preset (r : Rcc) (off v : UInt32) :
    (Device.rcc r).perform (.preset off v) = .rcc (r.write off v) := rfl

@[simp] theorem perform_rcc_reset (r : Rcc) : (Device.rcc r).perform .reset = .rcc r.reset := rfl

end Device

end Heartbeat
