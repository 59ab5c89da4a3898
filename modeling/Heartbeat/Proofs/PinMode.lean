import Mathlib
import Heartbeat.Board
import Heartbeat.Device.Gpio

/-!
# A pin's mode field: where core writes it is where a GPIO port reads it

Core places a pin's mode in the `width`-bit field at `pin % (32 / width) * width` of its
configuration register (`ModeField.packed?`), and programs it by clearing the field and setting
the mode's bits. A GPIO port decodes pin `q` from the 4-bit field at `q % 8 * 4` of CRL (pins 0
to 7) or CRH (pins 8 to 15) on the STM32F1, and from the 2-bit field at `q * 2` of MODER on the
later families. The two agree: a register written with one pin's field replaced decodes to the
mode written, cut to the field, and every other pin keeps its mode and its level.

Both sides are read bit by bit: the value written holds the mode's bits inside the field and the
old value's bits outside it (`getLsbD_place`), and a decoded field is a run of bits of the
register (`getElem_field`), so two fields at multiples of the width are the same or apart
(`field_place`).

* `fieldOnes_toNat`, `getElem_fieldOnes`, `getElem_field` : the ones of a field are its low
  bits, and a field read from a word is a run of its bits;
* `ModeField.place` : a register value with the field holding the mode;
* `ModeField.getElem_mask`, `ModeField.getLsbD_place`, `ModeField.field_place`;
* `ModeField.packed?_eq` : the field of a pin in a packed register;
* `Gpio.f1Output`, `Gpio.v2Output` : how each layout decodes a pin's field;
* `Gpio.f1_place`, `Gpio.v2_place` : one pin's field written on each layout;
* `packed_mode_decoded` : the field core packs is the field the port decodes.
-/

namespace Heartbeat

theorem fieldOnes_toNat {w : UInt8} (hw : w.toNat < 32) : (fieldOnes w).toNat = 2 ^ w.toNat - 1 := by
  have hlt : ¬ w ≥ 32 := by
    rw [ge_iff_le, UInt8.le_iff_toNat_le]
    simpa using hw
  have hpow : 2 ^ w.toNat < 2 ^ 32 := Nat.pow_lt_pow_right (by decide) hw
  have hshift : ((1 : UInt32) <<< w.toUInt32).toNat = 2 ^ w.toNat := by
    rw [UInt32.toNat_shiftLeft, UInt8.toNat_toUInt32, Nat.mod_eq_of_lt hw, Nat.shiftLeft_eq,
      show (1 : UInt32).toNat = 1 by decide, Nat.one_mul, Nat.mod_eq_of_lt hpow]
  rw [fieldOnes, if_neg hlt, UInt32.toNat_sub_of_le, hshift]
  · rfl
  · rw [UInt32.le_iff_toNat_le, hshift]
    exact Nat.one_le_two_pow

theorem getElem_fieldOnes {w : UInt8} (hw : w.toNat < 32) {j : Nat} (hj : j < 32) :
    (fieldOnes w).toBitVec[j] = decide (j < w.toNat) := by
  rw [BitVec.getElem_eq_testBit_toNat, UInt32.toNat_toBitVec, fieldOnes_toNat hw,
    Nat.testBit_two_pow_sub_one]

theorem and_fieldOnes {w : UInt8} (hw : w.toNat < 32) (x : UInt32) :
    x &&& fieldOnes w = x % (2 ^ w.toNat).toUInt32 := by
  have hpow : 2 ^ w.toNat < 2 ^ 32 := Nat.pow_lt_pow_right (by decide) hw
  apply UInt32.toNat_inj.mp
  rw [UInt32.toNat_and, fieldOnes_toNat hw, Nat.and_two_pow_sub_one_eq_mod, UInt32.toNat_mod,
    Nat.toUInt32, UInt32.toNat_ofNat', Nat.mod_eq_of_lt hpow]

theorem getElem_field (x : UInt32) {s : Nat} (hs : s < 32) {w : UInt8} (hw : w.toNat < 32)
    {j : Nat} (hj : j < 32) :
    ((x >>> s.toUInt32) &&& fieldOnes w).toBitVec[j] =
      (decide (j < w.toNat) && x.toBitVec.getLsbD (s + j)) := by
  simp [UInt32.toBitVec_shiftRight, getElem_fieldOnes hw hj, Nat.mod_eq_of_lt hs, Bool.and_comm]

namespace ModeField

theorem getElem_shiftLeft_offset (x : UInt32) {o : UInt8} (ho : o.toNat < 32) {i : Nat}
    (hi : i < 32) :
    (x <<< o.toUInt32).toBitVec[i] = (decide (o.toNat ≤ i) && x.toBitVec[i - o.toNat]) := by
  by_cases h : o.toNat ≤ i
  · simp [UInt32.toBitVec_shiftLeft, Nat.mod_eq_of_lt ho, h, Nat.not_lt.mpr h]
  · simp [UInt32.toBitVec_shiftLeft, Nat.mod_eq_of_lt ho, h, Nat.lt_of_not_le h]

/-- The register value `x` with the field holding the mode: the field's bits cleared, then the
mode's bits set. -/
def place (f : ModeField) (x : UInt32) : UInt32 := (x &&& ~~~f.mask) ||| f.bits

variable (f : ModeField) (hw : f.width.toNat < 32)
include hw

theorem getElem_mask {i : Nat} (hi : i < 32) :
    f.mask.toBitVec[i] = decide (f.offset.toNat ≤ i ∧ i < f.offset.toNat + f.width.toNat) := by
  rw [mask, getElem_shiftLeft_offset _ f.offset_lt hi]
  by_cases h : f.offset.toNat ≤ i
  · rw [getElem_fieldOnes hw (by omega)]
    simp [h]
    omega
  · simp [h]

variable (hf : f.offset.toNat + f.width.toNat ≤ 32)
include hf

theorem getLsbD_place (x : UInt32) (i : Nat) :
    (f.place x).toBitVec.getLsbD i = if f.offset.toNat ≤ i ∧ i < f.offset.toNat + f.width.toNat
      then f.mode.toBitVec.getLsbD (i - f.offset.toNat) else x.toBitVec.getLsbD i := by
  by_cases hi : i < 32
  · simp only [BitVec.getLsbD_eq_getElem hi, place, bits, UInt32.toBitVec_or,
      UInt32.toBitVec_and, UInt32.toBitVec_not, BitVec.getElem_or, BitVec.getElem_and,
      BitVec.getElem_not, getElem_mask f hw hi, getElem_shiftLeft_offset _ f.offset_lt hi]
    by_cases h : f.offset.toNat ≤ i ∧ i < f.offset.toNat + f.width.toNat
    · simp [h, BitVec.getLsbD_eq_getElem (by omega : i - f.offset.toNat < 32)]
    · simp [h]
  · -- past the word nothing is set, and the field lies inside it
    have hout : ¬ (f.offset.toNat ≤ i ∧ i < f.offset.toNat + f.width.toNat) := by omega
    rw [if_neg hout, BitVec.getLsbD_of_ge _ _ (by omega), BitVec.getLsbD_of_ge _ _ (by omega)]

/-- A field as wide as `f`'s, read from a placed value: the mode where `f` sits, and the old
value's field where it lies apart from `f`. -/
theorem field_place (x : UInt32) {s : Nat} (hs : s < 32)
    (hsf : s = f.offset.toNat ∨ s + f.width.toNat ≤ f.offset.toNat ∨
      f.offset.toNat + f.width.toNat ≤ s) :
    ((f.place x) >>> s.toUInt32) &&& fieldOnes f.width =
      if s = f.offset.toNat then f.mode &&& fieldOnes f.width
      else (x >>> s.toUInt32) &&& fieldOnes f.width := by
  apply UInt32.toBitVec_inj.mp
  apply BitVec.eq_of_getElem_eq
  intro j hj
  rw [getElem_field _ hs hw hj, getLsbD_place f hw hf]
  by_cases hso : s = f.offset.toNat
  · subst hso
    rw [if_pos rfl, UInt32.toBitVec_and, BitVec.getElem_and, getElem_fieldOnes hw hj,
      ← BitVec.getLsbD_eq_getElem hj]
    by_cases hjw : j < f.width.toNat
    · simp [hjw]
    · simp [hjw]
  · rw [if_neg hso, getElem_field _ hs hw hj]
    by_cases hjw : j < f.width.toNat
    · rw [if_neg (by omega)]
    · simp [hjw]

omit hw hf in
theorem packed?_eq (r : Register) (pin w : UInt8) (m : UInt32) (hw : 0 < w.toNat ∧ w.toNat ≤ 32) :
    ∃ f, packed? r pin w m = some f ∧ f.offset.toNat = packedOffset pin.toNat w.toNat ∧
      f.width = w ∧ f.mode = m := by
  have hlt : packedOffset pin.toNat w.toNat < 32 := packedOffset_lt hw.1 hw.2
  refine ⟨_, dif_pos hw, ?_, rfl, rfl⟩
  simp only [Nat.toUInt8, UInt8.toNat_ofNat']
  omega

end ModeField

namespace Gpio

theorem f1_field_place {f : ModeField} {p : Nat} (hf : f.offset.toNat = p % 8 * 4)
    (hw : f.width = 4) (x : UInt32) {q : Nat} (hpq : (q < 8 ↔ p < 8)) (hp : p < 16) (hq : q < 16) :
    ((f.place x) >>> (q % 8 * 4).toUInt32) &&& 0xF =
      if q = p then f.mode &&& 0xF else (x >>> (q % 8 * 4).toUInt32) &&& 0xF := by
  have hones : fieldOnes f.width = 0xF := by rw [hw]; rfl
  have hw' : f.width.toNat = 4 := by rw [hw]; rfl
  have h := f.field_place (by omega) (by omega) x (s := q % 8 * 4) (by omega) (by omega)
  rw [hones] at h
  rw [h]
  -- in one register, two pins share a field exactly when they are the same pin
  by_cases hqp : q = p
  · rw [if_pos (by omega), if_pos hqp]
  · rw [if_neg (by omega), if_neg hqp]

/-- The STM32F1 decoding of a pin's configuration nibble: a MODE other than input, with a CNF that
is not an alternate function. -/
def f1Output (n : UInt32) : Bool := n &&& 0b0011 != 0 && n &&& 0b1000 == 0

/-- The decoding of a pin's 2-bit MODER field: general purpose output is `01`. -/
def v2Output (n : UInt32) : Bool := n == 0b01

theorem isOutput_f1 {g : Gpio} (hl : g.layout = .f1) (q : Nat) :
    g.isOutput q = f1Output (((if q < 8 then g.crl else g.crh) >>> (q % 8 * 4).toUInt32) &&& 0xF) := by
  simp [isOutput, hl, f1Output]

theorem isOutput_v2 {g : Gpio} (hl : g.layout = .v2) (q : Nat) :
    g.isOutput q = v2Output ((g.moder >>> (q * 2).toUInt32) &&& 0b11) := by
  simp [isOutput, hl, v2Output]

/-- Writing one pin's field into CRL or CRH, the register `config_register` picks for it, of an
STM32F1 port: the pin decodes the mode, every other pin keeps its mode, and ODR is untouched. -/
theorem f1_place {g : Gpio} (hl : g.layout = .f1) {f : ModeField} {p : Nat} (hp : p < 16)
    (hf : f.offset.toNat = p % 8 * 4) (hw : f.width = 4) :
    let off : UInt32 := if p < 8 then 0 else 4
    (g.write off (f.place (g.read off))).isOutput p = f1Output (f.mode &&& 0xF) ∧
      (∀ q < 16, q ≠ p → (g.write off (f.place (g.read off))).isOutput q = g.isOutput q) ∧
      (g.write off (f.place (g.read off))).odr = g.odr := by
  intro off
  by_cases h8 : p < 8
  · have hoff : off = 0 := if_pos h8
    have hg : g.write off (f.place (g.read off)) = { g with crl := f.place g.crl } := by
      simp [hoff, read, write, hl]
    have hl' : ({ g with crl := f.place g.crl } : Gpio).layout = .f1 := hl
    rw [hg]
    refine ⟨?_, fun q hq hqp => ?_, rfl⟩
    · rw [isOutput_f1 hl', if_pos h8, f1_field_place hf hw _ Iff.rfl hp hp, if_pos rfl]
    · rw [isOutput_f1 hl', isOutput_f1 hl]
      by_cases hq8 : q < 8
      · rw [if_pos hq8, if_pos hq8, f1_field_place hf hw _ (by omega) hp hq, if_neg hqp]
      · rw [if_neg hq8, if_neg hq8]
  · have hoff : off = 4 := if_neg h8
    have hg : g.write off (f.place (g.read off)) = { g with crh := f.place g.crh } := by
      simp [hoff, read, write, hl]
    have hl' : ({ g with crh := f.place g.crh } : Gpio).layout = .f1 := hl
    rw [hg]
    refine ⟨?_, fun q hq hqp => ?_, rfl⟩
    · rw [isOutput_f1 hl', if_neg h8, f1_field_place hf hw _ Iff.rfl hp hp, if_pos rfl]
    · rw [isOutput_f1 hl', isOutput_f1 hl]
      by_cases hq8 : q < 8
      · rw [if_pos hq8, if_pos hq8]
      · rw [if_neg hq8, if_neg hq8, f1_field_place hf hw _ (by omega) hp hq, if_neg hqp]

theorem v2_field_place {f : ModeField} {p : Nat} (hf : f.offset.toNat = p * 2) (hw : f.width = 2)
    (x : UInt32) {q : Nat} (hp : p < 16) (hq : q < 16) :
    ((f.place x) >>> (q * 2).toUInt32) &&& 0b11 =
      if q = p then f.mode &&& 0b11 else (x >>> (q * 2).toUInt32) &&& 0b11 := by
  have hones : fieldOnes f.width = 0b11 := by rw [hw]; rfl
  have hw' : f.width.toNat = 2 := by rw [hw]; rfl
  have h := f.field_place (by omega) (by omega) x (s := q * 2) (by omega) (by omega)
  rw [hones] at h
  rw [h]
  by_cases hqp : q = p
  · rw [if_pos (by omega), if_pos hqp]
  · rw [if_neg (by omega), if_neg hqp]

theorem v2_place {g : Gpio} (hl : g.layout = .v2) {f : ModeField} {p : Nat} (hp : p < 16)
    (hf : f.offset.toNat = p * 2) (hw : f.width = 2) :
    (g.write 0 (f.place (g.read 0))).isOutput p = v2Output (f.mode &&& 0b11) ∧
      (∀ q < 16, q ≠ p → (g.write 0 (f.place (g.read 0))).isOutput q = g.isOutput q) ∧
      (g.write 0 (f.place (g.read 0))).odr = g.odr := by
  have hg : g.write 0 (f.place (g.read 0)) = { g with moder := f.place g.moder } := by
    simp [read, write, hl]
  have hl' : ({ g with moder := f.place g.moder } : Gpio).layout = .v2 := hl
  rw [hg]
  refine ⟨?_, fun q hq hqp => ?_, rfl⟩
  · rw [isOutput_v2 hl', v2_field_place hf hw _ hp hp, if_pos rfl]
  · rw [isOutput_v2 hl', isOutput_v2 hl, v2_field_place hf hw _ hp hq, if_neg hqp]

end Gpio

/-- **The field core packs is the field a GPIO port decodes.** On an STM32F1 port, writing the
register `config_register` picks for pin `p` (CRL or CRH) with the pin's packed 4-bit field
replaced, and on a later-family port writing MODER with the pin's packed 2-bit field replaced,
makes the port decode the mode written, cut to the field, as the pin's mode; every other pin
keeps its mode and its level, whatever the port's state. -/
theorem packed_mode_decoded :
    (∀ (port p : UInt8) (m : UInt32), p.toNat < 16 →
      ∃ f, ModeField.packed? (Board.F1.configRegister port p) p 4 m = some f ∧
        ∀ g : Gpio, g.layout = .f1 →
          let off := (Board.F1.configRegister port p).addr - Board.F1.gpioBase port
          let g' := g.write off (f.place (g.read off))
          g'.isOutput p.toNat = (m % 16 &&& 0b0011 != 0 && m % 16 &&& 0b1000 == 0) ∧
            ∀ q < 16, q ≠ p.toNat → g'.isOutput q = g.isOutput q ∧ g'.pinLevel q = g.pinLevel q) ∧
    (∀ (r : Register) (p : UInt8) (m : UInt32), p.toNat < 16 →
      ∃ f, ModeField.packed? r p 2 m = some f ∧
        ∀ g : Gpio, g.layout = .v2 →
          let g' := g.write 0 (f.place (g.read 0))
          g'.isOutput p.toNat = (m % 4 == 0b01) ∧
            ∀ q < 16, q ≠ p.toNat → g'.isOutput q = g.isOutput q ∧ g'.pinLevel q = g.pinLevel q) := by
  refine ⟨fun port p m hp => ?_, fun r p m hp => ?_⟩
  · obtain ⟨f, hf, hoff, hw, rfl⟩ := ModeField.packed?_eq (Board.F1.configRegister port p) p 4 m
      (by decide)
    have hoffset : (Board.F1.configRegister port p).addr - Board.F1.gpioBase port =
        if p.toNat < 8 then 0 else 4 := by
      simp only [Board.F1.configRegister]
      rw [UInt32.add_comm, UInt32.add_sub_cancel]
      by_cases h8 : p.toNat < 8
      · rw [if_pos (by rw [UInt8.lt_iff_toNat_lt]; exact h8), if_pos h8]
      · rw [if_neg (by rw [UInt8.lt_iff_toNat_lt]; exact h8), if_neg h8]
    refine ⟨f, hf, fun g hl => ?_⟩
    obtain ⟨hself, hothers, hodr⟩ := Gpio.f1_place hl hp (by rw [hoff]; rfl) hw
    dsimp only
    rw [hoffset]
    refine ⟨?_, fun q hq hqp => ⟨hothers q hq hqp, ?_⟩⟩
    · have hmod : f.mode &&& 15 = f.mode % 16 := and_fieldOnes (w := 4) (by decide) f.mode
      rw [hself, hmod]
      rfl
    · simp [Gpio.pinLevel, hodr]
  · obtain ⟨f, hf, hoff, hw, rfl⟩ := ModeField.packed?_eq r p 2 m (by decide)
    refine ⟨f, hf, fun g hl => ?_⟩
    obtain ⟨hself, hothers, hodr⟩ := Gpio.v2_place hl hp (by rw [hoff]; simp [ModeField.packedOffset]; omega) hw
    refine ⟨?_, fun q hq hqp => ⟨hothers q hq hqp, ?_⟩⟩
    · have hmod : f.mode &&& 3 = f.mode % 4 := and_fieldOnes (w := 2) (by decide) f.mode
      rw [hself, hmod]
      rfl
    · simp [Gpio.pinLevel, hodr]

/-- The Blue Pill's PC13, whose mode 0b0010 core packs into CRH, and the NUCLEO-F401RE's PA5,
whose mode 0b01 it packs into MODER, both decode as outputs. -/
theorem packed_mode_decoded_boards :
    (13 : UInt8).toNat < 16 ∧ (5 : UInt8).toNat < 16 ∧
      (∃ f, ModeField.packed? (Board.F1.configRegister 2 13) 13 4 0x2 = some f ∧
        ∀ g : Gpio, g.layout = .f1 →
          let off := (Board.F1.configRegister 2 13).addr - Board.F1.gpioBase 2
          (g.write off (f.place (g.read off))).isOutput 13 = true) ∧
      (∃ f, ModeField.packed? ⟨0x40020000⟩ 5 2 0x1 = some f ∧
        ∀ g : Gpio, g.layout = .v2 → (g.write 0 (f.place (g.read 0))).isOutput 5 = true) := by
  obtain ⟨f1, hf1, hg1⟩ := packed_mode_decoded.1 2 13 0x2 (by decide)
  obtain ⟨f2, hf2, hg2⟩ := packed_mode_decoded.2 ⟨0x40020000⟩ 5 0x1 (by decide)
  refine ⟨by decide, by decide, ⟨f1, hf1, fun g hl => ?_⟩, ⟨f2, hf2, fun g hl => ?_⟩⟩
  · exact (hg1 g hl).1.trans (by decide)
  · exact (hg2 g hl).1.trans (by decide)

end Heartbeat
