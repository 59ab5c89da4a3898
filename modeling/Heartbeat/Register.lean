import Heartbeat.Text.Radix

/-!
# Registers and the buses that serve them

A register is a 32-bit word at a fixed address. Its contents are not part of it: they are
observed only through a bus, which answers reads and takes writes.

* `Register`, `Register.display` (`0x` and eight hex digits);
* `RegisterBus` : a state that answers `read` and takes `write`;
* `setBits`, `clearBits`, `toggleBits` : one read, then one write of the value with the mask's
  bits set, cleared or flipped.
-/

namespace Heartbeat

structure Register where
  addr : UInt32
  deriving DecidableEq, Repr, Inhabited, Hashable

namespace Register

/-- The register at `offset` bytes from `base`; `none` when the sum leaves the 32-bit space. -/
def offset? (base offset : UInt32) : Option Register :=
  if base.toNat + offset.toNat < UInt32.size then some ⟨base + offset⟩ else none

/-- The register display: `0x` and eight lower-case hex digits. -/
def display (r : Register) : String :=
  Text.hexWord r.addr

instance : ToString Register := ⟨display⟩

end Register

/-- A bus of registers, as a state: a read answers a value and may change the state (a cycle
counter, a log), a write changes the state. -/
class RegisterBus (β : Type) where
  read : β → Register → UInt32 × β
  write : β → Register → UInt32 → β

namespace RegisterBus

variable {β : Type} [RegisterBus β]

/-- Reads the register, then writes it back with the bits of `mask` set. -/
def setBits (b : β) (r : Register) (mask : UInt32) : β :=
  let (v, b) := read b r
  write b r (v ||| mask)

/-- Reads the register, then writes it back with the bits of `mask` cleared. -/
def clearBits (b : β) (r : Register) (mask : UInt32) : β :=
  let (v, b) := read b r
  write b r (v &&& ~~~mask)

/-- Reads the register, then writes it back with the bits of `mask` flipped. -/
def toggleBits (b : β) (r : Register) (mask : UInt32) : β :=
  let (v, b) := read b r
  write b r (v ^^^ mask)

end RegisterBus

end Heartbeat
