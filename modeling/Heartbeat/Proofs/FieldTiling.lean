import Heartbeat.Proofs.Bounds

/-!
# Packed mode fields tile their register

A register that packs pins `w` bits wide holds `k = 32 / w` of them: pin `p` sits in slot
`p % k`, the bits from `(p % k) * w` up to `(p % k) * w + w`. The slot lies inside the word for
every width from 1 to 32, the widths that do not divide 32 included, where the top `32 % w` bits
belong to no pin; so the offset computed in a byte never wraps and no mask is shifted by 32 or
more. A field's mask is then exactly its slot's bits, `(2 ^ w - 1) * 2 ^ offset`, and its mode
bits are the mode cut to `w` bits and moved to the slot. Two pins share a mask when they share a
slot and have disjoint masks otherwise, and the masks of pins `0` to `k - 1` cover the low
`k * w` bits of the register and nothing else.

* `ModeField.testBit_mask`, `ModeField.bits_toNat_mod` : a field that fits in the word, bit by
  bit, and its mode bits for every mode;
* `ModeField.mask_and_eq_zero` : fields that lie apart have disjoint masks;
* `ModeField.packed?_eq_some`, `ModeField.packed_fits`, `ModeField.packed_offset` : a packed
  field lies in its slot, whose offset a byte computes exactly;
* `ModeField.Tiling`, `ModeField.packed_tiles` : how pins of every width tile a register.
-/

namespace Heartbeat

theorem slots_apart {a b : Nat} (w : Nat) (h : a ≠ b) : a * w + w ≤ b * w ∨ b * w + w ≤ a * w := by
  rcases Nat.lt_or_gt_of_ne h with hab | hab
  · left
    calc a * w + w = (a + 1) * w := (Nat.succ_mul a w).symm
      _ ≤ b * w := Nat.mul_le_mul_right w hab
  · right
    calc b * w + w = (b + 1) * w := (Nat.succ_mul b w).symm
      _ ≤ a * w := Nat.mul_le_mul_right w hab

theorem lt_slots_iff {j k w : Nat} (hw : 0 < w) :
    j < k * w ↔ ∃ i < k, i * w ≤ j ∧ j < i * w + w := by
  constructor
  · intro hj
    exact ⟨j / w, (Nat.div_lt_iff_lt_mul hw).mpr hj, Nat.div_mul_le_self j w, Nat.lt_div_mul_add hw⟩
  · rintro ⟨i, hi, -, hj⟩
    calc j < i * w + w := hj
      _ = (i + 1) * w := Nat.succ_mul i w |>.symm
      _ ≤ k * w := Nat.mul_le_mul_right w hi

namespace ModeField

section Fits

variable (f : ModeField) (hf : f.offset.toNat + f.width.toNat ≤ 32)
include hf

theorem testBit_mask (j : Nat) :
    f.mask.toNat.testBit j = decide (f.offset.toNat ≤ j ∧ j < f.offset.toNat + f.width.toNat) := by
  rw [mask_toNat f hf, Nat.testBit_mul_two_pow, Nat.testBit_two_pow_sub_one]
  by_cases h : f.offset.toNat ≤ j
  · have hiff : j - f.offset.toNat < f.width.toNat ↔ j < f.offset.toNat + f.width.toNat := by omega
    simp [h, hiff]
  · simp [h]

/-- The mode bits are the mode cut to the field's width and moved to its offset, whatever the
mode. -/
theorem bits_toNat_mod : f.bits.toNat = f.mode.toNat % 2 ^ f.width.toNat * 2 ^ f.offset.toNat := by
  have hcut : (f.mode &&& fieldOnes f.width).toNat = f.mode.toNat % 2 ^ f.width.toNat := by
    rw [UInt32.toNat_and, fieldOnes_toNat_of_le (by omega), Nat.and_two_pow_sub_one_eq_mod]
  have hlt : f.mode.toNat % 2 ^ f.width.toNat < 2 ^ f.width.toNat := Nat.mod_lt _ (Nat.two_pow_pos _)
  rw [bits, mask, ← UInt32.shiftLeft_and,
    shiftLeft_toNat _ f.offset_lt (by rw [hcut]; exact mul_two_pow_lt hlt hf), hcut]

end Fits

theorem mask_and_eq_zero {f g : ModeField} (hf : f.offset.toNat + f.width.toNat ≤ 32)
    (hg : g.offset.toNat + g.width.toNat ≤ 32)
    (hapart : f.offset.toNat + f.width.toNat ≤ g.offset.toNat ∨
      g.offset.toNat + g.width.toNat ≤ f.offset.toNat) :
    f.mask &&& g.mask = 0 := by
  apply UInt32.toNat_inj.mp
  apply Nat.eq_of_testBit_eq
  intro j
  rw [UInt32.toNat_and, Nat.testBit_and, testBit_mask f hf, testBit_mask g hg]
  simp only [UInt32.toNat_zero, Nat.zero_testBit, Bool.and_eq_false_iff, decide_eq_false_iff_not]
  omega

theorem packedOffset_add_le {pin width : Nat} (h0 : 0 < width) (h32 : width ≤ 32) :
    packedOffset pin width + width ≤ 32 := by
  unfold packedOffset
  have hq : 0 < 32 / width := Nat.div_pos h32 h0
  have hr : pin % (32 / width) + 1 ≤ 32 / width := Nat.mod_lt _ hq
  calc pin % (32 / width) * width + width = (pin % (32 / width) + 1) * width :=
        (Nat.succ_mul _ _).symm
    _ ≤ 32 / width * width := Nat.mul_le_mul_right _ hr
    _ ≤ 32 := Nat.div_mul_le_self 32 width

theorem packed?_eq_some {r : Register} {pin w : UInt8} {m : UInt32} {f : ModeField}
    (h : packed? r pin w m = some f) :
    (0 < w.toNat ∧ w.toNat ≤ 32) ∧ f.offset.toNat = packedOffset pin.toNat w.toNat ∧
      f.width = w ∧ f.mode = m := by
  by_cases hw : 0 < w.toNat ∧ w.toNat ≤ 32
  · obtain ⟨g, hg, hoff, hwid, hmode⟩ := packed?_eq r pin w m hw
    rw [hg, Option.some.injEq] at h
    subst h
    exact ⟨hw, hoff, hwid, hmode⟩
  · rw [packed?, dif_neg hw] at h
    cases h

theorem packed_fits {r : Register} {pin w : UInt8} {m : UInt32} {f : ModeField}
    (h : packed? r pin w m = some f) : f.offset.toNat + f.width.toNat ≤ 32 := by
  obtain ⟨hw, hoff, rfl, -⟩ := packed?_eq_some h
  rw [hoff]
  exact packedOffset_add_le hw.1 hw.2

/-- The slot's offset computed in a byte, as `(pin % (32 / w)) * w`, is the field's: the
product never wraps. -/
theorem packed_offset {r : Register} {pin w : UInt8} {m : UInt32} {f : ModeField}
    (h : packed? r pin w m = some f) : f.offset = pin % (32 / w) * w := by
  obtain ⟨hw, hoff, -, -⟩ := packed?_eq_some h
  have hlt : packedOffset pin.toNat w.toNat < 2 ^ 8 :=
    Nat.lt_trans (packedOffset_lt hw.1 hw.2) (by decide)
  apply UInt8.toNat_inj.mp
  rw [hoff, UInt8.toNat_mul, UInt8.toNat_mod, UInt8.toNat_div,
    show (32 : UInt8).toNat = 32 from rfl]
  exact (Nat.mod_eq_of_lt hlt).symm

/-- How pins `w` bits wide tile a register `r`: each pin's field lies in its slot
`pin % (32 / w)`, its offset computed in a byte without wrapping, with the slot's mask and the mode
cut to `w` bits; pins of one slot share a mask and pins of two slots have disjoint masks; and the
masks of the pins `0` to `32 / w - 1` cover exactly the low `32 / w * w` bits of the word. -/
structure Tiling (r : Register) (w : UInt8) : Prop where
  slot : ∀ (p : UInt8) (m : UInt32), ∃ f, packed? r p w m = some f ∧
    f.offset = p % (32 / w) * w ∧ f.offset.toNat = p.toNat % (32 / w.toNat) * w.toNat ∧
    f.offset.toNat + w.toNat ≤ 32 ∧
    f.mask.toNat = (2 ^ w.toNat - 1) * 2 ^ f.offset.toNat ∧
    f.bits.toNat = m.toNat % 2 ^ w.toNat * 2 ^ f.offset.toNat
  same : ∀ {p q : UInt8} {m m' : UInt32} {f g : ModeField}, packed? r p w m = some f →
    packed? r q w m' = some g → p.toNat % (32 / w.toNat) = q.toNat % (32 / w.toNat) →
    f.mask = g.mask
  apart : ∀ {p q : UInt8} {m m' : UInt32} {f g : ModeField}, packed? r p w m = some f →
    packed? r q w m' = some g → p.toNat % (32 / w.toNat) ≠ q.toNat % (32 / w.toNat) →
    f.mask &&& g.mask = 0
  cover : ∀ (m : UInt32) (j : Nat), (∃ (i : UInt8) (f : ModeField), i.toNat < 32 / w.toNat ∧
    packed? r i w m = some f ∧ f.mask.toNat.testBit j = true) ↔ j < 32 / w.toNat * w.toNat

/-- **Packed fields tile their register**, for every width from 1 to 32 and every pin. -/
theorem packed_tiles (r : Register) (w : UInt8) (hw : 1 ≤ w.toNat ∧ w.toNat ≤ 32) :
    Tiling r w where
  slot p m := by
    obtain ⟨f, hf, hoff, hwid, hmode⟩ := packed?_eq r p w m hw
    have hfit := packed_fits hf
    subst hwid hmode
    exact ⟨f, hf, packed_offset hf, hoff, hfit, mask_toNat f hfit, bits_toNat_mod f hfit⟩
  same {p q m m' f g} hf hg hpq := by
    obtain ⟨-, hfo, hfw, -⟩ := packed?_eq_some hf
    obtain ⟨-, hgo, hgw, -⟩ := packed?_eq_some hg
    have hoff : f.offset = g.offset := by
      apply UInt8.toNat_inj.mp
      rw [hfo, hgo, packedOffset, packedOffset, hpq]
    rw [mask, mask, hoff, hfw, hgw]
  apart {p q m m' f g} hf hg hpq := by
    obtain ⟨-, hfo, hfw, -⟩ := packed?_eq_some hf
    obtain ⟨-, hgo, hgw, -⟩ := packed?_eq_some hg
    apply mask_and_eq_zero (packed_fits hf) (packed_fits hg)
    rw [hfo, hgo, hfw, hgw]
    exact slots_apart w.toNat hpq
  cover m j := by
    have hk : 32 / w.toNat ≤ 32 := Nat.div_le_self 32 w.toNat
    rw [lt_slots_iff (show 0 < w.toNat by omega)]
    constructor
    · rintro ⟨i, f, hi, hf, hbit⟩
      obtain ⟨-, hoff, rfl, -⟩ := packed?_eq_some hf
      rw [testBit_mask f (packed_fits hf), hoff, packedOffset, Nat.mod_eq_of_lt hi] at hbit
      exact ⟨i.toNat, hi, of_decide_eq_true hbit⟩
    · rintro ⟨i, hi, hj⟩
      -- the slot `i` is the slot of the pin numbered `i`, which a byte holds
      have hi8 : i.toUInt8.toNat = i := by
        rw [Nat.toUInt8, UInt8.toNat_ofNat', Nat.mod_eq_of_lt (by omega)]
      obtain ⟨f, hf, hoff, hwid, -⟩ := packed?_eq r i.toUInt8 w m ⟨by omega, hw.2⟩
      refine ⟨i.toUInt8, f, by rw [hi8]; exact hi, hf, ?_⟩
      rw [testBit_mask f (packed_fits hf), hoff, packedOffset, hi8, Nat.mod_eq_of_lt hi, hwid]
      exact decide_eq_true hj

/-- Pins three bits wide, a width that leaves the top two bits of the word to no pin. -/
theorem packed_tiles_width3 : (1 ≤ (3 : UInt8).toNat ∧ (3 : UInt8).toNat ≤ 32) ∧
    Tiling ⟨0x40010800⟩ 3 :=
  ⟨by decide, packed_tiles ⟨0x40010800⟩ 3 (by decide)⟩

end ModeField

end Heartbeat
