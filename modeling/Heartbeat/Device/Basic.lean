import Heartbeat.Device.Gpio
import Heartbeat.Device.Rcc
import Heartbeat.Device.Memory
import Heartbeat.Json.Basic

/-!
# Peripheral models

The three kinds of peripheral a window can hold, behind one interface: a read or write at a byte
offset inside the window, a forced value, a reset to power-on, the state of a pin, and a JSON
snapshot of the registers. Only plain memory refuses offsets.

* `Device`, `Device.build` : a model from a kind, a layout name and a window size;
* `Device.read`, `write`, `preset`, `reset`, `pinState`, `snapshot`.
-/

namespace Heartbeat

inductive Device where
  | gpio (g : Gpio)
  | rcc (r : Rcc)
  | memory (m : Memory)
  deriving DecidableEq, Repr

inductive BuildError where
  /-- The layout name is not one of the kind's. -/
  | layout (message : String)
  /-- The kind is not modelled. -/
  | unsupported (kind : String)
  /-- A memory of `2 ^ 63` bytes or more, whose word array cannot even be described. -/
  | tooLarge
  deriving DecidableEq, Repr

def BuildError.message : BuildError → String
  | .layout m => m
  | .unsupported k => s!"Unsupported peripheral type '{k}'"
  | .tooLarge => "capacity overflow"

namespace Device

/-- The model of a kind; a GPIO port or RCC block takes its layout name (`f1` when none is
given), a memory its size. -/
def build (kind : String) (layout : Option String) (size : UInt64) : Except BuildError Device :=
  if kind = "gpio" then
    match layout with
    | none => .ok (.gpio (Gpio.init .f1))
    | some l => match GpioLayout.parse l with
      | .ok x => .ok (.gpio (Gpio.init x))
      | .error m => .error (.layout m)
  else if kind = "rcc" then
    match layout with
    | none => .ok (.rcc (Rcc.init .f1))
    | some l => match RccLayout.parse l with
      | .ok x => .ok (.rcc (Rcc.init x))
      | .error m => .error (.layout m)
  else if kind = "memory" then
    if size.toNat ≥ UInt64.size / 2 then .error .tooLarge else .ok (.memory (Memory.init size))
  else .error (.unsupported kind)

def read : Device → UInt32 → Except Fault UInt32
  | .gpio g, off => .ok (g.read off)
  | .rcc r, off => .ok (r.read off)
  | .memory m, off => m.read off

def write : Device → UInt32 → UInt32 → Except Fault Device
  | .gpio g, off, v => .ok (.gpio (g.write off v))
  | .rcc r, off, v => .ok (.rcc (r.write off v))
  | .memory m, off, v => (m.write off v).map .memory

/-- The model with a register forced, bypassing what a write would do besides. -/
def preset : Device → UInt32 → UInt32 → Except Fault Device
  | .gpio g, off, v => .ok (.gpio (g.preset off v))
  | d, off, v => d.write off v

def reset : Device → Device
  | .gpio g => .gpio g.reset
  | .rcc r => .rcc r.reset
  | .memory m => .memory m.reset

def pinState : Device → UInt8 → Option PinState
  | .gpio g, pin => g.pinState pin
  | _, _ => none

open Json in
/-- The registers as JSON, keys in text order: a GPIO port's eleven registers and layout, an
RCC block's enable registers as `[offset, value]` pairs and layout, and a memory's non-zero
words keyed by byte offset (`0x` and at least three hex digits). -/
def snapshot : Device → Value
  | .gpio g =>
    let n (v : UInt32) : Value := .ofNat v.toNat
    .obj [("afrh", n g.afrh), ("afrl", n g.afrl), ("crh", n g.crh), ("crl", n g.crl),
      ("idr", n g.idr), ("layout", .str g.layout.name), ("lckr", n g.lckr), ("moder", n g.moder),
      ("odr", n g.odr), ("ospeedr", n g.ospeedr), ("otyper", n g.otyper), ("pupdr", n g.pupdr)]
  | .rcc r =>
    .obj [("enable", .arr (r.enable.map fun e => .arr [.ofNat e.1.toNat, .ofNat e.2.toNat])),
      ("layout", .str r.layout.name)]
  | .memory m =>
    .obj (Value.sortMembers (m.used.map fun (i, w) => (Text.hexAtLeast 3 (i * 4), .ofNat w.toNat)))

end Device

end Heartbeat
