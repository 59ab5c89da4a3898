import Heartbeat.Fault
import Heartbeat.Text.Blank

/-!
# GPIO ports

A GPIO port in one of two register layouts:

* `f1`: two configuration registers (CRL for pins 0 to 7, CRH for pins 8 to 15) with a 4-bit
  field per pin; IDR at `0x08`, ODR at `0x0C`, BSRR at `0x10`, BRR at `0x14`, LCKR at `0x18`;
* `v2`: MODER with a 2-bit field per pin, OTYPER, OSPEEDR, PUPDR, IDR at `0x10`, ODR at `0x14`,
  BSRR at `0x18`, LCKR at `0x1C`, AFRL, AFRH, BRR at `0x28`.

ODR, IDR and OTYPER hold 16 bits. BSRR sets the pins of its low half and clears those of its
high half, setting winning; BRR clears. BSRR and BRR read as zero, as does every offset the
layout does not define; writes there are ignored.

* `GpioLayout`, `GpioLayout.parse`;
* `Gpio`, `Gpio.init`, `read`, `write`, `preset` (which also sets IDR), `isOutput`, `pinState`.
-/

namespace Heartbeat

inductive GpioLayout where
  | f1
  | v2
  deriving DecidableEq, Repr

/-- The layout a name gives, in any ASCII case and with blanks around it. -/
def GpioLayout.parse (raw : String) : Except String GpioLayout :=
  let v := (Text.trim raw).map Char.toLower
  if v = "stm32f1" || v = "f1" || v = "legacy" then .ok .f1
  else if v = "stm32v2" || v = "v2" || v = "modern" || v = "stm32f4" || v = "stm32l4" ||
    v = "stm32h5" then .ok .v2
  else .error s!"unsupported GPIO register layout '{raw}'; supported: stm32f1, stm32v2"

def GpioLayout.name : GpioLayout → String
  | .f1 => "stm32_f1"
  | .v2 => "stm32_v2"

structure Gpio where
  layout : GpioLayout
  crl : UInt32
  crh : UInt32
  moder : UInt32
  otyper : UInt32
  ospeedr : UInt32
  pupdr : UInt32
  idr : UInt32
  odr : UInt32
  lckr : UInt32
  afrl : UInt32
  afrh : UInt32
  deriving DecidableEq, Repr

namespace Gpio

/-- A port at power-on: all zero, except the `f1` configuration registers, whose pins start as
floating inputs (`0x44444444`). -/
def init (layout : GpioLayout) : Gpio :=
  let cfg : UInt32 := if layout = .f1 then 0x44444444 else 0
  ⟨layout, cfg, cfg, 0, 0, 0, 0, 0, 0, 0, 0, 0⟩

def reset (g : Gpio) : Gpio := init g.layout

/-- The value of the register at an offset; zero where the layout has none to read. -/
def read (g : Gpio) (offset : UInt32) : UInt32 :=
  match g.layout with
  | .f1 =>
    if offset = 0x00 then g.crl else if offset = 0x04 then g.crh
    else if offset = 0x08 then g.idr else if offset = 0x0C then g.odr
    else if offset = 0x18 then g.lckr else 0
  | .v2 =>
    if offset = 0x00 then g.moder else if offset = 0x04 then g.otyper
    else if offset = 0x08 then g.ospeedr else if offset = 0x0C then g.pupdr
    else if offset = 0x10 then g.idr else if offset = 0x14 then g.odr
    else if offset = 0x1C then g.lckr else if offset = 0x20 then g.afrl
    else if offset = 0x24 then g.afrh else 0

/-- ODR after a write to BSRR: the high half clears pins, then the low half sets them. -/
def setReset (odr v : UInt32) : UInt32 :=
  (odr &&& ~~~((v >>> 16) &&& 0xFFFF)) ||| (v &&& 0xFFFF)

/-- The port after a write at an offset; a write where the layout has no register changes
nothing. -/
def write (g : Gpio) (offset v : UInt32) : Gpio :=
  match g.layout with
  | .f1 =>
    if offset = 0x00 then { g with crl := v } else if offset = 0x04 then { g with crh := v }
    else if offset = 0x0C then { g with odr := v &&& 0xFFFF }
    else if offset = 0x10 then { g with odr := setReset g.odr v }
    else if offset = 0x14 then { g with odr := g.odr &&& ~~~(v &&& 0xFFFF) }
    else if offset = 0x18 then { g with lckr := v } else g
  | .v2 =>
    if offset = 0x00 then { g with moder := v }
    else if offset = 0x04 then { g with otyper := v &&& 0xFFFF }
    else if offset = 0x08 then { g with ospeedr := v }
    else if offset = 0x0C then { g with pupdr := v }
    else if offset = 0x14 then { g with odr := v &&& 0xFFFF }
    else if offset = 0x18 then { g with odr := setReset g.odr v }
    else if offset = 0x1C then { g with lckr := v }
    else if offset = 0x20 then { g with afrl := v }
    else if offset = 0x24 then { g with afrh := v }
    else if offset = 0x28 then { g with odr := g.odr &&& ~~~(v &&& 0xFFFF) } else g

def idrOffset : GpioLayout → UInt32
  | .f1 => 0x08
  | .v2 => 0x10

/-- Forces a register: the input data register takes its low 16 bits, which software cannot
write; any other offset is written. -/
def preset (g : Gpio) (offset v : UInt32) : Gpio :=
  if offset = idrOffset g.layout then { g with idr := v &&& 0xFFFF } else g.write offset v

/-- Whether the mode bits make a pin below 16 a general purpose output: on `f1` a MODE field
other than input and a CNF field that is not an alternate function, on `v2` the mode `01`. -/
def isOutput (g : Gpio) (pin : Nat) : Bool :=
  match g.layout with
  | .f1 =>
    let cfg := if pin < 8 then g.crl else g.crh
    let nibble := (cfg >>> (pin % 8 * 4).toUInt32) &&& 0xF
    nibble &&& 0b0011 != 0 && nibble &&& 0b1000 == 0
  | .v2 => (g.moder >>> (pin * 2).toUInt32) &&& 0b11 == 0b01

def pinLevel (g : Gpio) (pin : Nat) : Bool :=
  pin < 16 && (g.odr >>> pin.toUInt32) &&& 1 == 1

/-- The state of a pin, for the sixteen pins of the port. -/
def pinState (g : Gpio) (pin : UInt8) : Option PinState :=
  if pin < 16 then some ⟨g.isOutput pin.toNat, g.pinLevel pin.toNat⟩ else none

end Gpio

end Heartbeat
