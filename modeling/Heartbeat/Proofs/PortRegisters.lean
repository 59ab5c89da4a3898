import Heartbeat.Device.Ops
import Heartbeat.Proofs.Echo
import Heartbeat.Proofs.Reset

/-!
# The data registers of a GPIO port stay sixteen bits wide

A port's output data, input data and output type registers hold one bit per pin, sixteen in
all. Every path that writes them cuts the value to its low half: a write to ODR or OTYPER, a
forced value of IDR, BSRR (which clears the pins of its high half, then sets those of its low
half) and BRR (which clears the pins of its low half). So whatever a bus does to a fresh port, in
either layout, the three stay below `2 ^ 16`.

The set/reset registers change ODR and nothing else, and read as zero, like every offset the
layout has no register at; the input data register moves only by a forced value at its own
offset or a reset; and only the sixteen pins have a state.

* `Gpio.idr_write`, `Gpio.otyper_write`, `Gpio.odr_write` : what a write can do to each;
* `Gpio.write_bsrr`, `Gpio.write_brr`, `Gpio.testBit_setReset` : the set/reset registers;
* `GpioLayout.readable`, `Gpio.read_of_not_mem` : the offsets a layout reads back;
* `Gpio.Narrow` : the three registers below `2 ^ 16`, kept by every operation;
* `Device.performAll_gpio` : a property every operation keeps holds after any run;
* `Gpio.idr_perform`, `Gpio.pinState_eq_none_iff`;
* `Gpio.port_registers_narrow` : all of it.
-/

namespace Heartbeat

/-- The offsets of the registers a layout reads back: CRL, CRH, IDR, ODR and LCKR on `f1`;
MODER, OTYPER, OSPEEDR, PUPDR, IDR, ODR, LCKR, AFRL and AFRH on `v2`. -/
def GpioLayout.readable : GpioLayout → List UInt32
  | .f1 => [0x00, 0x04, 0x08, 0x0C, 0x18]
  | .v2 => [0x00, 0x04, 0x08, 0x0C, 0x10, 0x14, 0x1C, 0x20, 0x24]

theorem and_low_half_lt (v : UInt32) : (v &&& 0xFFFF).toNat < 2 ^ 16 := by
  rw [UInt32.toNat_and]
  exact Nat.lt_of_le_of_lt Nat.and_le_right (by decide)

theorem and_toNat_lt {x : UInt32} (y : UInt32) {n : Nat} (h : x.toNat < n) :
    (x &&& y).toNat < n := by
  rw [UInt32.toNat_and]
  exact Nat.lt_of_le_of_lt Nat.and_le_left h

namespace Gpio

/-! ### What a write does to each register -/

theorem idr_write (g : Gpio) (off v : UInt32) : (g.write off v).idr = g.idr := by
  unfold write
  split <;> simp only [apply_ite Gpio.idr, ite_self]

theorem otyper_write (g : Gpio) (off v : UInt32) :
    (g.write off v).otyper = g.otyper ∨ (g.write off v).otyper = v &&& 0xFFFF := by
  suffices h : (g.write off v).otyper ∈ [g.otyper, v &&& 0xFFFF] by
    simpa only [List.mem_cons, List.not_mem_nil, or_false] using h
  unfold write
  split <;> simp only [apply_ite Gpio.otyper, ite_mem, List.mem_cons, true_or, or_true,
    implies_true, and_self]

theorem odr_write (g : Gpio) (off v : UInt32) :
    (g.write off v).odr = g.odr ∨ (g.write off v).odr = v &&& 0xFFFF ∨
      (g.write off v).odr = setReset g.odr v ∨
      (g.write off v).odr = g.odr &&& ~~~(v &&& 0xFFFF) := by
  suffices h : (g.write off v).odr ∈
      [g.odr, v &&& 0xFFFF, setReset g.odr v, g.odr &&& ~~~(v &&& 0xFFFF)] by
    simpa only [List.mem_cons, List.not_mem_nil, or_false] using h
  unfold write
  split <;> simp only [apply_ite Gpio.odr, ite_mem, List.mem_cons, true_or, or_true,
    implies_true, and_self]

theorem write_bsrr (g : Gpio) (v : UInt32) :
    g.write g.layout.bsrrOffset v =
      { g with odr := (g.odr &&& ~~~((v >>> 16) &&& 0xFFFF)) ||| (v &&& 0xFFFF) } := by
  unfold write
  split <;> rename_i hl <;> simp [hl, GpioLayout.bsrrOffset, setReset]

theorem write_brr (g : Gpio) (v : UInt32) :
    g.write g.layout.brrOffset v = { g with odr := g.odr &&& ~~~(v &&& 0xFFFF) } := by
  unfold write
  split <;> rename_i hl <;> simp [hl, GpioLayout.brrOffset]

/-- Pin by pin, BSRR sets a pin whose set bit is one, else clears it when its reset bit is one:
setting wins. -/
theorem testBit_setReset (odr v : UInt32) {p : Nat} (hp : p < 16) :
    (setReset odr v).toNat.testBit p =
      (v.toNat.testBit p || odr.toNat.testBit p && !v.toNat.testBit (p + 16)) := by
  have hp32 : p < 32 := by omega
  have hlow : (65535#32)[p] = true := by
    rw [BitVec.getElem_eq_testBit_toNat, BitVec.toNat_ofNat,
      show 65535 % 2 ^ 32 = 2 ^ 16 - 1 from rfl, Nat.testBit_two_pow_sub_one, decide_eq_true_iff]
    exact hp
  simp only [← UInt32.toNat_toBitVec, BitVec.testBit_toNat, setReset]
  simp [UInt32.toBitVec_shiftRight, hlow, hp32, Nat.add_comm 16 p]
  exact Bool.or_comm _ _

theorem read_of_not_mem (g : Gpio) {off : UInt32} (h : off ∉ g.layout.readable) :
    g.read off = 0 := by
  unfold read
  split <;> rename_i hl <;> simp_all [GpioLayout.readable]

theorem setReset_not_readable (l : GpioLayout) : l.bsrrOffset ∉ l.readable ∧ l.brrOffset ∉ l.readable := by
  cases l <;> decide

/-! ### Sixteen bits -/

/-- The registers of a port that hold one bit per pin are below `2 ^ 16`. -/
structure Narrow (g : Gpio) : Prop where
  odr_lt : g.odr.toNat < 2 ^ 16
  idr_lt : g.idr.toNat < 2 ^ 16
  otyper_lt : g.otyper.toNat < 2 ^ 16

theorem setReset_lt {odr : UInt32} (h : odr.toNat < 2 ^ 16) (v : UInt32) :
    (setReset odr v).toNat < 2 ^ 16 := by
  rw [setReset, UInt32.toNat_or]
  exact Nat.or_lt_two_pow (and_toNat_lt _ h) (and_low_half_lt v)

theorem Narrow.init (l : GpioLayout) : (Gpio.init l).Narrow :=
  ⟨Nat.two_pow_pos 16, Nat.two_pow_pos 16, Nat.two_pow_pos 16⟩

theorem Narrow.reset (g : Gpio) : g.reset.Narrow := Narrow.init g.layout

theorem Narrow.write {g : Gpio} (h : g.Narrow) (off v : UInt32) : (g.write off v).Narrow where
  odr_lt := by
    rcases odr_write g off v with hw | hw | hw | hw <;> rw [hw]
    · exact h.odr_lt
    · exact and_low_half_lt v
    · exact setReset_lt h.odr_lt v
    · exact and_toNat_lt _ h.odr_lt
  idr_lt := by rw [idr_write]; exact h.idr_lt
  otyper_lt := by
    rcases otyper_write g off v with hw | hw <;> rw [hw]
    · exact h.otyper_lt
    · exact and_low_half_lt v

theorem Narrow.preset {g : Gpio} (h : g.Narrow) (off v : UInt32) : (g.preset off v).Narrow := by
  unfold Gpio.preset
  split_ifs
  · exact ⟨h.odr_lt, and_low_half_lt v, h.otyper_lt⟩
  · exact h.write off v

theorem idr_perform {g g' : Gpio} {op : DeviceOp} (h : (Device.gpio g).perform op = .gpio g')
    (hne : g'.idr ≠ g.idr) : (∃ v, op = .preset (idrOffset g.layout) v) ∨ op = .reset := by
  cases op with
  | write off v =>
    rw [Device.perform_gpio_write, Device.gpio.injEq] at h
    subst h
    exact absurd (idr_write g off v) hne
  | preset off v =>
    rw [Device.perform_gpio_preset, Device.gpio.injEq] at h
    subst h
    by_cases hoff : off = idrOffset g.layout
    · exact .inl ⟨v, by rw [hoff]⟩
    · rw [preset, if_neg hoff, idr_write] at hne
      exact absurd rfl hne
  | reset => exact .inr rfl

theorem pinState_eq_none_iff (g : Gpio) (p : UInt8) : g.pinState p = none ↔ 16 ≤ p := by
  simp [pinState]

end Gpio

/-- A property of ports that writes, forced values and resets keep holds after every run. -/
theorem Device.performAll_gpio {P : Gpio → Prop} (hwrite : ∀ g off v, P g → P (g.write off v))
    (hpreset : ∀ g off v, P g → P (g.preset off v)) (hreset : ∀ g, P g → P g.reset) :
    ∀ (ops : List DeviceOp) {g : Gpio}, P g → ∃ g', (Device.gpio g).performAll ops = .gpio g' ∧ P g'
  | [], g, h => ⟨g, rfl, h⟩
  | .write off v :: ops, g, h => performAll_gpio hwrite hpreset hreset ops (hwrite g off v h)
  | .preset off v :: ops, g, h => performAll_gpio hwrite hpreset hreset ops (hpreset g off v h)
  | .reset :: ops, g, h => performAll_gpio hwrite hpreset hreset ops (hreset g h)

namespace Gpio

/-- **A GPIO port's data registers stay sixteen bits wide.** From power-on, in either layout and
after any writes, forced values and resets, ODR, IDR and OTYPER are below `2 ^ 16`. BSRR and BRR
change ODR alone, BSRR's set bits winning over its reset bits, and read as zero like every offset
outside the layout's table; IDR moves only by a forced value at its offset or a reset; and a pin
has a state exactly when it is below 16. -/
theorem port_registers_narrow :
    (∀ (l : GpioLayout) (ops : List DeviceOp), ∃ g,
      (Device.gpio (Gpio.init l)).performAll ops = .gpio g ∧ g.layout = l ∧
        g.odr.toNat < 2 ^ 16 ∧ g.idr.toNat < 2 ^ 16 ∧ g.otyper.toNat < 2 ^ 16) ∧
    (∀ (g : Gpio) (v : UInt32),
      g.write g.layout.bsrrOffset v =
        { g with odr := (g.odr &&& ~~~((v >>> 16) &&& 0xFFFF)) ||| (v &&& 0xFFFF) } ∧
      ∀ p < 16, (g.write g.layout.bsrrOffset v).odr.toNat.testBit p =
        (v.toNat.testBit p || g.odr.toNat.testBit p && !v.toNat.testBit (p + 16))) ∧
    (∀ (g : Gpio) (v : UInt32),
      g.write g.layout.brrOffset v = { g with odr := g.odr &&& ~~~(v &&& 0xFFFF) }) ∧
    (∀ (g : Gpio) (off : UInt32), off ∉ g.layout.readable → g.read off = 0) ∧
    (∀ l : GpioLayout, l.bsrrOffset ∉ l.readable ∧ l.brrOffset ∉ l.readable) ∧
    (∀ (g g' : Gpio) (op : DeviceOp), (Device.gpio g).perform op = .gpio g' → g'.idr ≠ g.idr →
      (∃ v, op = .preset (idrOffset g.layout) v) ∨ op = .reset) ∧
    (∀ (g : Gpio) (p : UInt8), g.pinState p = none ↔ 16 ≤ p) := by
  refine ⟨fun l ops => ?_, fun g v => ⟨write_bsrr g v, fun p hp => ?_⟩, write_brr,
    fun g _ h => read_of_not_mem g h, setReset_not_readable, fun _ _ _ h hne => idr_perform h hne,
    pinState_eq_none_iff⟩
  · -- the layout and the bounds together are kept by every operation
    have hrun := Device.performAll_gpio (P := fun g => g.layout = l ∧ g.Narrow)
      (fun g off v h => ⟨(layout_write g off v).trans h.1, h.2.write off v⟩)
      (fun g off v h => ⟨(layout_preset g off v).trans h.1, h.2.preset off v⟩)
      (fun g h => ⟨h.1, Narrow.reset g⟩) ops ⟨rfl, Narrow.init l⟩
    obtain ⟨g, hg, hl, hn⟩ := hrun
    exact ⟨g, hg, hl, hn.odr_lt, hn.idr_lt, hn.otyper_lt⟩
  · rw [write_bsrr]
    exact testBit_setReset g.odr v hp

end Gpio

end Heartbeat
