import Heartbeat.Size
import Heartbeat.Target

/-!
# Board profiles

A board profile names a board and its chip, gives the three registers of its heartbeat (clock
enable bit, pin mode field, output bit) and, optionally, the peripheral windows a simulator maps:
each window has an id, a kind (`rcc`, `gpio`, `memory`), a register layout, a base address, a
size written in human units, values its registers take after reset, and an optional clock gate.

* `BitRef`, `ModeSpec`, `OutputSpec`, `LedSpec`, `PeripheralSpec`, `Profile`;
* `ResetTable`, `resetTable` : reset values by offset, in increasing order, the later of two
  values for an offset kept;
* `PeripheralSpec.windowSize` : the declared size, `1KiB` when absent;
* `Profile.peripheralAt` : the first window, in declaration order, that holds an address;
* `Profile.target?` : the heartbeat the profile describes.
-/

namespace Heartbeat

/-- A single bit of a register: the LED's clock-enable bit, or a peripheral's clock gate. -/
structure BitRef where
  register : UInt32
  bit : UInt8
  deriving DecidableEq, Repr

/-- The pin mode field of the LED: `width` bits at `offset` of `register`, to be set to
`value`. -/
structure ModeSpec where
  register : UInt32
  offset : UInt8
  width : UInt8
  value : UInt32
  deriving DecidableEq, Repr

structure OutputSpec where
  register : UInt32
  pin : UInt8
  deriving DecidableEq, Repr

structure LedSpec where
  clock : BitRef
  mode : ModeSpec
  output : OutputSpec
  deriving DecidableEq, Repr

/-- Puts one reset value into an offset-sorted table; a later value for an offset replaces the
earlier one. -/
def insertReset (k v : UInt32) : List (UInt32 × UInt32) → List (UInt32 × UInt32)
  | [] => [(k, v)]
  | (k', v') :: rest =>
    if k < k' then (k, v) :: (k', v') :: rest
    else if k = k' then (k, v) :: rest
    else (k', v') :: insertReset k v rest

theorem mem_keys_insertReset {k v x : UInt32} :
    ∀ {t : List (UInt32 × UInt32)}, x ∈ (insertReset k v t).map Prod.fst →
      x = k ∨ x ∈ t.map Prod.fst
  | [], h => by simpa [insertReset] using h
  | (k', v') :: rest, h => by
    unfold insertReset at h
    split at h
    · simpa using h
    · split at h
      · rename_i heq
        subst heq
        simpa using h
      · simp only [List.map_cons, List.mem_cons] at h
        rcases h with rfl | h
        · simp
        · rcases mem_keys_insertReset h with rfl | h
          · simp
          · simp [h]

theorem sorted_insertReset (k v : UInt32) :
    ∀ {t : List (UInt32 × UInt32)}, (t.map Prod.fst).Pairwise (· < ·) →
      ((insertReset k v t).map Prod.fst).Pairwise (· < ·)
  | [], _ => by simp [insertReset]
  | (k', v') :: rest, h => by
    obtain ⟨hhead, hrest⟩ := List.pairwise_cons.mp h
    unfold insertReset
    split
    · rename_i hlt
      refine List.pairwise_cons.mpr ⟨fun x hx => ?_, h⟩
      rcases List.mem_cons.mp hx with rfl | hx
      · exact hlt
      · exact UInt32.lt_trans hlt (hhead x hx)
    · split
      · rename_i heq
        subst heq
        exact List.pairwise_cons.mpr ⟨hhead, hrest⟩
      · rename_i hlt heq
        -- a key the table passes lies above the head, so goes after it
        have hgt : k' < k := by
          rw [UInt32.lt_iff_toNat_lt] at hlt ⊢
          have : k.toNat ≠ k'.toNat := fun e => heq (UInt32.toNat_inj.mp e)
          omega
        refine List.pairwise_cons.mpr ⟨fun x hx => ?_, sorted_insertReset k v hrest⟩
        rcases mem_keys_insertReset hx with rfl | hx
        · exact hgt
        · exact hhead x hx

/-- Reset values by offset, each offset once and in increasing order, as a `BTreeMap` keeps
them. -/
structure ResetTable where
  entries : List (UInt32 × UInt32)
  sorted : (entries.map Prod.fst).Pairwise (· < ·)
  deriving Repr

def resetTable (entries : List (UInt32 × UInt32)) : ResetTable :=
  entries.foldl (fun t e => ⟨insertReset e.1 e.2 t.entries, sorted_insertReset e.1 e.2 t.sorted⟩)
    ⟨[], .nil⟩

structure PeripheralSpec where
  id : String
  kind : String
  layout : Option String
  base : UInt32
  size : Option String
  resetValues : ResetTable
  gate : Option BitRef
  deriving Repr

structure Profile where
  schemaVersion : String
  name : String
  chip : String
  description : Option String
  peripherals : List PeripheralSpec
  led : LedSpec
  delayCount : UInt32
  deriving Repr

/-- The only schema version profiles are written in. -/
def supportedSchema : String := "1.0"

def peripheralKinds : List String := ["rcc", "gpio", "memory"]

/-- The window size of a peripheral that declares none: one 1 KiB slot. -/
def defaultWindowSize : UInt64 := 0x400

namespace PeripheralSpec

def windowSize (p : PeripheralSpec) : Except Size.SizeError UInt64 :=
  match p.size with
  | some s => Size.parse s
  | none => .ok defaultWindowSize

/-- Whether a window of `size` bytes at the peripheral's base holds `addr`. -/
def contains (p : PeripheralSpec) (addr : UInt32) (size : UInt64) : Bool :=
  p.base.toNat ≤ addr.toNat && addr.toNat < p.base.toNat + size.toNat

end PeripheralSpec

namespace Profile

/-- The first peripheral, in declaration order, whose window holds `addr`. -/
def peripheralAt (p : Profile) (addr : UInt32) : Except Size.SizeError (Option PeripheralSpec) :=
  go p.peripherals
where
  go : List PeripheralSpec → Except Size.SizeError (Option PeripheralSpec)
    | [] => .ok none
    | q :: rest => do
      let size ← q.windowSize
      if q.contains addr size then pure (some q) else go rest

/-- The heartbeat of the profile; it exists when the clock bit and the mode field's offset
and the output pin lie inside a 32-bit register. -/
def target? (p : Profile) : Option BlinkTarget := do
  let led := p.led
  let clock ← ClockGate.bit? ⟨led.clock.register⟩ led.clock.bit
  let mode ← ModeField.mk? ⟨led.mode.register⟩ led.mode.offset led.mode.width led.mode.value
  let output ← OutputBit.mk? ⟨led.output.register⟩ led.output.pin
  pure { clock, mode, output, delayCount := p.delayCount }

end Profile

end Heartbeat
