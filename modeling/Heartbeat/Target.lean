import Heartbeat.Register

/-!
# The registers of a heartbeat

Blinking an LED takes three registers: a clock-enable bit for the GPIO bank, a mode field in the
pin configuration register, and the output bit of the pin.

* `ClockGate` : a register and the mask of its enable bits; `ClockGate.bit?` for one bit;
* `ModeField` : a pin's field of `width` bits at `offset` in a register shared with its sibling
  pins; `mask` and `bits` (the mode value shifted into place, cut to the field);
  `ModeField.packed?` : the field of a pin in a register that packs `32 / width` pins;
* `OutputBit` : the data register bit of the pin;
* `BlinkTarget` : the three, and the busy-wait count between toggles.

The field offset and the output pin are below 32 by construction, so no mask ever shifts a bit
out of the word; `ClockGate.bit?`, `ModeField.mk?`, `OutputBit.mk?` and `ModeField.packed?` answer
`none` where such a shift would be asked for (and where `packed?` would divide by zero).
-/

namespace Heartbeat

structure ClockGate where
  register : Register
  mask : UInt32
  deriving DecidableEq, Repr

/-- The gate of a single enable bit; `none` for a bit outside the word. -/
def ClockGate.bit? (register : Register) (bit : UInt8) : Option ClockGate :=
  if bit < 32 then some ⟨register, 1 <<< bit.toUInt32⟩ else none

/-- The ones of a field `width` bits wide, at the bottom of a word; a field of 32 bits or more
covers the whole word. -/
def fieldOnes (width : UInt8) : UInt32 :=
  if width ≥ 32 then 0xFFFFFFFF else (1 <<< width.toUInt32) - 1

/-- One pin's mode field inside a configuration register shared with its sibling pins. -/
structure ModeField where
  register : Register
  offset : UInt8
  width : UInt8
  mode : UInt32
  offset_lt : offset.toNat < 32
  deriving DecidableEq, Repr

namespace ModeField

def mk? (register : Register) (offset width : UInt8) (mode : UInt32) : Option ModeField :=
  if h : offset.toNat < 32 then some ⟨register, offset, width, mode, h⟩ else none

/-- The bits the pin owns; bits of a wide field above the word are dropped. -/
def mask (f : ModeField) : UInt32 :=
  fieldOnes f.width <<< f.offset.toUInt32

def bits (f : ModeField) : UInt32 :=
  (f.mode <<< f.offset.toUInt32) &&& f.mask

/-- The offset of a pin's field when the register packs `32 / width` pins, the lowest pin in
the lowest bits. -/
def packedOffset (pin width : Nat) : Nat :=
  pin % (32 / width) * width

theorem packedOffset_lt {pin width : Nat} (h0 : 0 < width) (h32 : width ≤ 32) :
    packedOffset pin width < 32 := by
  unfold packedOffset
  have hq : 0 < 32 / width := Nat.div_pos h32 h0
  have hr : pin % (32 / width) + 1 ≤ 32 / width := Nat.mod_lt _ hq
  have h1 : (pin % (32 / width) + 1) * width ≤ 32 / width * width := Nat.mul_le_mul_right _ hr
  have h2 : 32 / width * width ≤ 32 := Nat.div_mul_le_self 32 width
  rw [Nat.succ_mul] at h1
  omega

/-- The field of `pin` in a register packing `32 / width` pins; `none` for a width of zero or
above 32, where there is no such packing. -/
def packed? (register : Register) (pin width : UInt8) (mode : UInt32) : Option ModeField :=
  if h : 0 < width.toNat ∧ width.toNat ≤ 32 then
    some ⟨register, (packedOffset pin.toNat width.toNat).toUInt8, width, mode, by
      have : packedOffset pin.toNat width.toNat < 32 := packedOffset_lt h.1 h.2
      rw [Nat.toUInt8, UInt8.toNat_ofNat', Nat.mod_eq_of_lt (by omega)]
      exact this⟩
  else none

end ModeField

structure OutputBit where
  register : Register
  pin : UInt8
  pin_lt : pin.toNat < 32
  deriving DecidableEq, Repr

namespace OutputBit

def mk? (register : Register) (pin : UInt8) : Option OutputBit :=
  if h : pin.toNat < 32 then some ⟨register, pin, h⟩ else none

def mask (o : OutputBit) : UInt32 :=
  1 <<< o.pin.toUInt32

end OutputBit

structure BlinkTarget where
  clock : ClockGate
  mode : ModeField
  output : OutputBit
  /-- Busy-wait iterations between toggles. -/
  delayCount : UInt32
  deriving DecidableEq, Repr

def defaultDelayCount : UInt32 := 500000

end Heartbeat
