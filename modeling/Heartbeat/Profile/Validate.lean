import Heartbeat.Profile.Basic
import Heartbeat.Text.Blank
import Heartbeat.Text.Radix

/-!
# Validating a profile

The checks a profile must pass before anything is simulated from it, in the order they are
made; the first that fails names the error.

1. the schema version is `1.0` and the name is not blank;
2. the clock bit is inside a 32-bit register, the mode field fits one, the mode value fits the
   field, the output pin is inside one;
3. the three LED registers are 32-bit aligned;
4. each peripheral in turn: a fresh id, a known kind, a clock gate bit inside the register and an
   aligned gate register, a size that reads and is not zero, a window ending by `2^32`;
5. no two windows overlap (checked on neighbours in the order of start, end and id);
6. when peripherals are declared, each LED register lies in one of them.

* `ProfileError`, `ProfileError.message`;
* `Profile.validate`.
-/

namespace Heartbeat

/-- Why a profile is refused. The last two are not refusals of the profile itself: a size text
that does not read, and a window end that does not fit in 64 bits. -/
inductive ProfileError where
  | unsupportedSchema (version : String)
  | emptyName
  | clockBitOutOfRange (bit : UInt8)
  | modeFieldOutOfRange (offset width : UInt8)
  | modeValueTooWide (value : UInt32) (width : UInt8)
  | pinOutOfRange (pin : UInt8)
  | unaligned (register : UInt32)
  | unmapped (register : UInt32)
  | duplicateId (id : String)
  | unsupportedPeripheral (id kind : String)
  | emptyWindow (id : String)
  | windowOutOfRange (id : String)
  | gateBitOutOfRange (id : String) (bit : UInt8)
  | overlap (first second : String)
  | badSize (id : String) (error : Size.SizeError)
  | windowEndOverflow (id : String)
  deriving DecidableEq, Repr

namespace ProfileError

def message : ProfileError → String
  | .unsupportedSchema v => s!"unsupported schema_version '{v}'; supported versions: '1.0'"
  | .emptyName => "board name cannot be empty"
  | .clockBitOutOfRange b => s!"clock enable bit {b} is outside a 32-bit register"
  | .modeFieldOutOfRange o w =>
    s!"mode field at offset {o} with width {w} does not fit a 32-bit register"
  | .modeValueTooWide v w => s!"mode value {Text.hexShort v.toNat} does not fit a {w}-bit field"
  | .pinOutOfRange p => s!"output pin {p} is outside a 32-bit register"
  | .unaligned r => s!"register {Text.hexWord r} is not 32-bit aligned"
  | .unmapped r => s!"register {Text.hexWord r} is not inside any declared peripheral"
  | .duplicateId id => s!"duplicate peripheral id '{id}'"
  | .unsupportedPeripheral id k =>
    s!"peripheral '{id}' has unsupported type '{k}'; supported: rcc, gpio, memory"
  | .emptyWindow id => s!"peripheral '{id}' has an empty address window"
  | .windowOutOfRange id => s!"peripheral '{id}' extends past the 32-bit address space"
  | .gateBitOutOfRange id b => s!"peripheral '{id}' clock gate bit {b} is outside a 32-bit register"
  | .overlap a b => s!"peripherals '{a}' and '{b}' overlap"
  | .badSize id e => s!"Invalid size for peripheral '{id}': Invalid size format: {e.message}"
  | .windowEndOverflow id => s!"window end of peripheral '{id}' overflows"

end ProfileError

/-- A peripheral's window as a half-open range of addresses. -/
structure Span where
  start : Nat
  stop : Nat
  id : String
  deriving DecidableEq, Repr

/-- Spans in the order of start, then end, then id. -/
def Span.le (a b : Span) : Bool :=
  a.start < b.start || (a.start == b.start && (a.stop < b.stop || (a.stop == b.stop && decide (a.id ≤ b.id))))

namespace Profile

/-- The checks on the LED registers that need no peripheral. -/
def checkLed (led : LedSpec) : Except ProfileError Unit := do
  if led.clock.bit ≥ 32 then throw (.clockBitOutOfRange led.clock.bit)
  let m := led.mode
  if m.width = 0 || m.width.toNat + m.offset.toNat > 32 then
    throw (.modeFieldOutOfRange m.offset m.width)
  if m.width < 32 && m.value.toNat >>> m.width.toNat != 0 then
    throw (.modeValueTooWide m.value m.width)
  if led.output.pin ≥ 32 then throw (.pinOutOfRange led.output.pin)
  for r in [led.clock.register, m.register, led.output.register] do
    if r % 4 != 0 then throw (.unaligned r)

/-- The checks on one peripheral, given the ids declared before it; its window. -/
def checkPeripheral (seen : List String) (p : PeripheralSpec) : Except ProfileError Span := do
  if seen.contains p.id then throw (.duplicateId p.id)
  if !peripheralKinds.contains p.kind then throw (.unsupportedPeripheral p.id p.kind)
  if let some g := p.gate then
    if g.bit ≥ 32 then throw (.gateBitOutOfRange p.id g.bit)
    if g.register % 4 != 0 then throw (.unaligned g.register)
  let size ← match p.windowSize with
    | .ok s => pure s.toNat
    | .error e => throw (.badSize p.id e)
  if size = 0 then throw (.emptyWindow p.id)
  let start := p.base.toNat
  if start + size ≥ UInt64.size then throw (.windowEndOverflow p.id)
  if start + size > UInt32.size then throw (.windowOutOfRange p.id)
  pure ⟨start, start + size, p.id⟩

/-- Checks the peripherals in declaration order and gives their windows. -/
def checkPeripherals : List String → List PeripheralSpec → Except ProfileError (List Span)
  | _, [] => .ok []
  | seen, p :: rest => do
    let s ← checkPeripheral seen p
    let ss ← checkPeripherals (p.id :: seen) rest
    pure (s :: ss)

/-- The first two neighbouring spans that overlap, in sorted order. -/
def firstOverlap : List Span → Option (String × String)
  | a :: b :: rest => if b.start < a.stop then some (a.id, b.id) else firstOverlap (b :: rest)
  | _ => none

/-- Checks that each LED register lies in a declared window. -/
def checkMapped (p : Profile) : Except ProfileError Unit := do
  let led := p.led
  for r in [led.clock.register, led.mode.register, led.output.register] do
    match p.peripheralAt r with
    | .ok (some _) => pure ()
    | .ok none => throw (.unmapped r)
    | .error e => throw (.badSize "" e)

/-- Validates a profile: the first check that fails gives the error. -/
def validate (p : Profile) : Except ProfileError Unit := do
  if p.schemaVersion != supportedSchema then throw (.unsupportedSchema p.schemaVersion)
  if (Text.trim p.name).isEmpty then throw .emptyName
  checkLed p.led
  let spans ← checkPeripherals [] p.peripherals
  if let some (a, b) := firstOverlap (spans.mergeSort Span.le) then throw (.overlap a b)
  if !p.peripherals.isEmpty then checkMapped p

end Profile

end Heartbeat
