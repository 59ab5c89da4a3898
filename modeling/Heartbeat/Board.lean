import Heartbeat.Target

/-!
# The built-in boards

Five boards of two GPIO families. The STM32F1 family configures a pin in a 4-bit field of CRL
(pins 0 to 7) or CRH (pins 8 to 15) and enables port `x` by bit `2 + x` of `RCC_APB2ENR`. The
later families (F4, L4, H5) configure a pin in a 2-bit field of MODER, drive it through ODR at
offset `0x14`, and enable port `x` by bit `x` of an AHB enable register.

* `F1` : the STM32F1 constants, `F1.gpioBase`, `F1.enableBit?`, `F1.configRegister`,
  `F1.target?`;
* `V2.target?` : a target of the later families;
* `builtins`, `byName?` : the five boards by name.
-/

namespace Heartbeat.Board

namespace F1

def apb2enr : Register := ⟨0x40021018⟩

def gpioA : UInt32 := 0x40010800

def gpioStride : UInt32 := 0x400

/-- General-purpose push-pull output at 2 MHz. -/
def outputMode : UInt32 := 0b0010

def gpioBase (port : UInt8) : UInt32 :=
  gpioA + gpioStride * port.toUInt32

/-- The enable bit of a port, `2 + port`; `none` when that sum leaves the byte. -/
def enableBit? (port : UInt8) : Option UInt8 :=
  if port.toNat + 2 < 256 then some (port + 2) else none

/-- CRL for pins 0 to 7, CRH for pins 8 to 15. -/
def configRegister (port pin : UInt8) : Register :=
  ⟨gpioBase port + (if pin < 8 then 0 else 4)⟩

def target? (port pin : UInt8) : Option BlinkTarget := do
  let bit ← enableBit? port
  let clock ← ClockGate.bit? apb2enr bit
  let mode ← ModeField.packed? (configRegister port pin) pin 4 outputMode
  let output ← OutputBit.mk? ⟨gpioBase port + 0x0C⟩ pin
  pure ⟨clock, mode, output, defaultDelayCount⟩

end F1

namespace V2

def outputMode : UInt32 := 0b01

/-- The heartbeat of a pin of a later-family port, its bank enabled by bit `port` of `enable`. -/
def target? (enable : Register) (gpioA : UInt32) (port pin : UInt8) : Option BlinkTarget := do
  let base := gpioA + 0x400 * port.toUInt32
  let clock ← ClockGate.bit? enable port
  let mode ← ModeField.packed? ⟨base⟩ pin 2 outputMode
  let output ← OutputBit.mk? ⟨base + 0x14⟩ pin
  pure ⟨clock, mode, output, defaultDelayCount⟩

end V2

/-- Blue Pill (STM32F103C8), LED on PC13. -/
def bluepill : BlinkTarget := (F1.target? 2 13).get (by decide)

def nucleoF103rb : BlinkTarget := (F1.target? 0 5).get (by decide)

def nucleoF401re : BlinkTarget := (V2.target? ⟨0x40023830⟩ 0x40020000 0 5).get (by decide)

def nucleoL476rg : BlinkTarget := (V2.target? ⟨0x4002104C⟩ 0x48000000 0 5).get (by decide)

def nucleoH563zi : BlinkTarget := (V2.target? ⟨0x44020C8C⟩ 0x42020000 1 0).get (by decide)

/-- The built-in boards, in their fixed order. -/
def builtins : List (String × BlinkTarget) :=
  [("bluepill", bluepill), ("nucleo-f103rb", nucleoF103rb), ("nucleo-f401re", nucleoF401re),
    ("nucleo-l476rg", nucleoL476rg), ("nucleo-h563zi", nucleoH563zi)]

def byName? (name : String) : Option BlinkTarget :=
  (builtins.find? (·.1 == name)).map (·.2)

end Heartbeat.Board
