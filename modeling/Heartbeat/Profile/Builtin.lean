import Heartbeat.Profile.Basic

/-!
# Built-in board profiles

The five boards every tool knows by name, each with an RCC window and the GPIO port of its LED,
gated by the LED's own clock-enable bit.

* `Profile.builtins`, `Profile.builtin?`.
-/

namespace Heartbeat.Profile

def rccWindow (layout : String) (base : UInt32) : PeripheralSpec :=
  { id := "rcc", kind := "rcc", layout := some layout, base, size := some "1KiB",
    resetValues := resetTable [], gate := none }

/-- A GPIO port window of one slot, gated by `gate`. -/
def gpioWindow (id layout : String) (base : UInt32) (resetValues : List (UInt32 × UInt32))
    (gate : BitRef) : PeripheralSpec :=
  { id, kind := "gpio", layout := some layout, base, size := some "1KiB",
    resetValues := resetTable resetValues, gate := some gate }

/-- A board whose LED is clocked by `clock`, with its mode field and output bit. -/
def board (name chip description : String) (peripherals : List PeripheralSpec) (clock : BitRef)
    (mode : ModeSpec) (output : OutputSpec) : Profile :=
  { schemaVersion := supportedSchema, name, chip, description := some description, peripherals,
    led := ⟨clock, mode, output⟩, delayCount := 500000 }

/-- Blue Pill: the user LED on PC13. -/
def bluepill : Profile :=
  board "bluepill" "stm32f103c8" "Blue Pill, user LED on PC13"
    [rccWindow "stm32f1" 0x40021000, gpioWindow "gpioc" "stm32f1" 0x40011000 [] ⟨0x40021018, 4⟩]
    ⟨0x40021018, 4⟩ ⟨0x40011004, 20, 4, 0x2⟩ ⟨0x4001100C, 13⟩

def nucleoF103rb : Profile :=
  board "nucleo-f103rb" "stm32f103rb" "NUCLEO-F103RB, LD2 on PA5"
    [rccWindow "stm32f1" 0x40021000, gpioWindow "gpioa" "stm32f1" 0x40010800 [] ⟨0x40021018, 2⟩]
    ⟨0x40021018, 2⟩ ⟨0x40010800, 20, 4, 0x2⟩ ⟨0x4001080C, 5⟩

/-- NUCLEO-F401RE: LD2 on PA5; the debug pins come out of reset in their alternate function. -/
def nucleoF401re : Profile :=
  board "nucleo-f401re" "stm32f401re" "NUCLEO-F401RE, LD2 on PA5"
    [rccWindow "stm32f4" 0x40023800,
      gpioWindow "gpioa" "stm32v2" 0x40020000 [(0x00, 0xA8000000)] ⟨0x40023830, 0⟩]
    ⟨0x40023830, 0⟩ ⟨0x40020000, 10, 2, 0x1⟩ ⟨0x40020014, 5⟩

/-- NUCLEO-L476RG: LD2 on PA5; analog mode everywhere except the debug pins. -/
def nucleoL476rg : Profile :=
  board "nucleo-l476rg" "stm32l476rg" "NUCLEO-L476RG, LD2 on PA5"
    [rccWindow "stm32l4" 0x40021000,
      gpioWindow "gpioa" "stm32v2" 0x48000000 [(0x00, 0xABFFFFFF)] ⟨0x4002104C, 0⟩]
    ⟨0x4002104C, 0⟩ ⟨0x48000000, 10, 2, 0x1⟩ ⟨0x48000014, 5⟩

/-- NUCLEO-H563ZI: LD1 on PB0; PB3 and PB4 come out of reset as JTAG pins. -/
def nucleoH563zi : Profile :=
  board "nucleo-h563zi" "stm32h563zi" "NUCLEO-H563ZI, LD1 on PB0"
    [rccWindow "stm32h5" 0x44020C00,
      gpioWindow "gpiob" "stm32v2" 0x42020400 [(0x00, 0xFFFFFEBF)] ⟨0x44020C8C, 1⟩]
    ⟨0x44020C8C, 1⟩ ⟨0x42020400, 0, 2, 0x1⟩ ⟨0x42020414, 0⟩

/-- The built-in profiles, by name, in their listing order. -/
def builtins : List (String × Profile) :=
  [("bluepill", bluepill), ("nucleo-f103rb", nucleoF103rb), ("nucleo-f401re", nucleoF401re),
    ("nucleo-l476rg", nucleoL476rg), ("nucleo-h563zi", nucleoH563zi)]

def builtin? (name : String) : Option Profile :=
  (builtins.find? (·.1 == name)).map (·.2)

end Heartbeat.Profile
