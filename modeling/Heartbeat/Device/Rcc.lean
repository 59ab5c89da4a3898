import Heartbeat.Text.Blank

/-!
# Reset and clock control

Only the peripheral clock-enable registers of an RCC block are modelled; which offsets they sit
at depends on the chip family. Every other offset reads as zero and ignores writes.

* `RccLayout`, `RccLayout.parse`, `RccLayout.enableOffsets`;
* `Rcc`, `Rcc.init`, `read`, `write`.
-/

namespace Heartbeat

inductive RccLayout where
  | f1
  | f4
  | l4
  | h5
  deriving DecidableEq, Repr

namespace RccLayout

def parse (raw : String) : Except String RccLayout :=
  let v := (Text.trim raw).map Char.toLower
  if v = "stm32f1" || v = "f1" || v = "legacy" then .ok .f1
  else if v = "stm32f4" || v = "f4" then .ok .f4
  else if v = "stm32l4" || v = "l4" then .ok .l4
  else if v = "stm32h5" || v = "h5" then .ok .h5
  else .error s!"unsupported RCC register layout '{raw}'; supported: stm32f1, stm32f4, stm32l4, stm32h5"

def name : RccLayout → String
  | .f1 => "stm32_f1"
  | .f4 => "stm32_f4"
  | .l4 => "stm32_l4"
  | .h5 => "stm32_h5"

/-- The offsets of the clock-enable registers, in the order of the reference manual:
APB2ENR and APB1ENR on `f1`; AHB1ENR, AHB2ENR, APB1ENR and APB2ENR on the others. -/
def enableOffsets : RccLayout → List UInt32
  | .f1 => [0x18, 0x1C]
  | .f4 => [0x30, 0x34, 0x40, 0x44]
  | .l4 => [0x48, 0x4C, 0x58, 0x60]
  | .h5 => [0x88, 0x8C, 0x9C, 0xA4]

end RccLayout

/-- An RCC block: its layout and the value of each enable register, in offset order. -/
structure Rcc where
  layout : RccLayout
  enable : List (UInt32 × UInt32)
  deriving DecidableEq, Repr

namespace Rcc

def init (layout : RccLayout) : Rcc :=
  ⟨layout, layout.enableOffsets.map fun off => (off, 0)⟩

def reset (r : Rcc) : Rcc :=
  ⟨r.layout, r.enable.map fun e => (e.1, 0)⟩

/-- The value of the register at an offset; zero off the enable registers. -/
def read (r : Rcc) (offset : UInt32) : UInt32 :=
  match r.enable.find? (·.1 == offset) with
  | some e => e.2
  | none => 0

/-- The first entry at the offset takes the value. -/
def setAt (offset v : UInt32) : List (UInt32 × UInt32) → List (UInt32 × UInt32)
  | [] => []
  | e :: rest => if e.1 = offset then (e.1, v) :: rest else e :: setAt offset v rest

/-- The block after a write; a write off the enable registers changes nothing. -/
def write (r : Rcc) (offset v : UInt32) : Rcc :=
  ⟨r.layout, setAt offset v r.enable⟩

end Rcc

end Heartbeat
