import Heartbeat.Proofs.Routing
/-!
# Models that read a register back

A model reads back at an offset when a read there returns, on a given bit, what the last write put
there: a GPIO port at its output data register for a pin below 16, an RCC at one of its enable
registers, a memory at any of its whole words. A write to another offset of the same model leaves
that bit alone, as long as, for a GPIO port, the offset is neither its set/reset register nor its
reset register.

* `Device.ReadsBack d off pin` : the model `d` reads `off` back on bit `pin`;
* `Device.Tidy d` : a memory model keeps its table of cells in index order, which every write,
  preset and build keeps (`Device.Tidy.write`, `Device.tidy_of_reset`);
* `Device.Apart d off' off` : a write at `off'` cannot reach the word at `off`;
* `Device.ReadsBack.read_write` : a write is read back on the bit;
* `Device.ReadsBack.read_write_apart` : a write elsewhere leaves the read alone;
* `testBit_mask`, `testBit_xor_mask` : the pin's mask reads and flips the word's bit.
-/

namespace Heartbeat

/-! ### Bits of a word -/

theorem and_two_pow_ne_zero (x p : Nat) : (x &&& 2 ^ p ≠ 0) ↔ x.testBit p = true := by
  constructor
  · intro h
    by_contra hb
    apply h
    apply Nat.eq_of_testBit_eq
    intro i
    rw [Nat.testBit_and, Nat.testBit_two_pow, Nat.zero_testBit]
    by_cases hi : p = i
    · subst hi
      simpa using hb
    · simp [hi]
  · intro hb h0
    have := congrArg (Nat.testBit · p) h0
    simp [Nat.testBit_and, hb] at this

theorem toNat_mask {p : UInt8} (hp : p.toNat < 32) : (1 <<< p.toUInt32 : UInt32).toNat = 2 ^ p.toNat := by
  rw [UInt32.toNat_shiftLeft]
  simp [Nat.mod_eq_of_lt hp, Nat.one_shiftLeft]
  exact Nat.pow_lt_pow_right (by omega) hp

theorem testBit_mask (v : UInt32) {p : UInt8} (hp : p.toNat < 32) :
    (v &&& (1 <<< p.toUInt32) != 0) = v.toNat.testBit p.toNat := by
  have hne : (v &&& (1 <<< p.toUInt32) ≠ 0) ↔ (v &&& (1 <<< p.toUInt32)).toNat ≠ 0 := by
    rw [Ne, Ne, ← UInt32.toNat_inj]
    rfl
  rw [UInt32.toNat_and, toNat_mask hp, and_two_pow_ne_zero] at hne
  rw [Bool.eq_iff_iff, bne_iff_ne, hne]

theorem testBit_xor_mask (v : UInt32) {p : UInt8} (hp : p.toNat < 32) :
    (v ^^^ (1 <<< p.toUInt32)).toNat.testBit p.toNat = !v.toNat.testBit p.toNat := by
  rw [UInt32.toNat_xor, Nat.testBit_xor, toNat_mask hp, Nat.testBit_two_pow_self]
  simp

theorem testBit_low_half (v : UInt32) {p : Nat} (hp : p < 16) :
    (v &&& 0xFFFF).toNat.testBit p = v.toNat.testBit p := by
  rw [UInt32.toNat_and, Nat.testBit_and]
  have : (0xFFFF : UInt32).toNat = 2 ^ 16 - 1 := rfl
  rw [this, Nat.testBit_two_pow_sub_one]
  simp [hp]

/-! ### Sparse tables in index order -/

def Ordered (l : List (Nat × UInt32)) : Prop := l.Pairwise (fun a b => a.1 < b.1)

theorem cellAt_of_not_mem {i : Nat} : ∀ {l : List (Nat × UInt32)}, (∀ e ∈ l, e.1 ≠ i) →
    cellAt i l = 0
  | [], _ => rfl
  | (j, w) :: rest, h => by
    have hj : i ≠ j := fun hij => h (j, w) List.mem_cons_self hij.symm
    rw [cellAt, if_neg hj]
    exact cellAt_of_not_mem fun e he => h e (List.mem_cons_of_mem _ he)

/-- Setting a word adds its index, keeps the others' entries, or drops its own. -/
theorem mem_setCell {i : Nat} {w : UInt32} :
    ∀ {l : List (Nat × UInt32)} {e : Nat × UInt32}, e ∈ setCell i w l → e.1 = i ∨ e ∈ l
  | [], e, h => by
    unfold setCell at h
    split_ifs at h <;> simp_all
  | (j, x) :: rest, e, h => by
    unfold setCell at h
    split_ifs at h
    · exact .inr h
    · simp only [List.mem_cons] at h ⊢
      rcases h with rfl | h
      · exact .inl rfl
      · exact .inr h
    · exact .inr (List.mem_cons_of_mem _ h)
    · simp only [List.mem_cons] at h
      rcases h with rfl | h
      · exact .inl rfl
      · exact .inr (List.mem_cons_of_mem _ h)
    · simp only [List.mem_cons] at h ⊢
      rcases h with rfl | h
      · exact .inr (.inl rfl)
      · rcases mem_setCell h with h | h
        · exact .inl h
        · exact .inr (.inr h)

theorem ordered_setCell (i : Nat) (w : UInt32) :
    ∀ {l : List (Nat × UInt32)}, Ordered l → Ordered (setCell i w l)
  | [], _ => by
    unfold setCell
    split_ifs <;> simp [Ordered]
  | (j, x) :: rest, h => by
    unfold Ordered at h
    rw [List.pairwise_cons] at h
    unfold setCell
    split_ifs with hlt hw hij hw'
    · exact List.pairwise_cons.mpr h
    · refine List.pairwise_cons.mpr ⟨?_, List.pairwise_cons.mpr h⟩
      intro e he
      rcases List.mem_cons.mp he with rfl | he
      · exact hlt
      · exact Nat.lt_trans hlt (h.1 e he)
    · exact h.2
    · subst hij
      exact List.pairwise_cons.mpr ⟨h.1, h.2⟩
    · refine List.pairwise_cons.mpr ⟨?_, ordered_setCell i w h.2⟩
      intro e he
      rcases mem_setCell he with he | he
      · omega
      · exact h.1 e he

theorem cellAt_setCell_self (i : Nat) (w : UInt32) :
    ∀ {l : List (Nat × UInt32)}, Ordered l → cellAt i (setCell i w l) = w
  | [], _ => by
    unfold setCell
    split_ifs with hw <;> simp [cellAt, hw]
  | (j, x) :: rest, h => by
    unfold Ordered at h
    rw [List.pairwise_cons] at h
    -- the entries after `j` have larger indices, so none of them is `i` when `i ≤ j`
    have hrest : i ≤ j → cellAt i rest = 0 := fun hij =>
      cellAt_of_not_mem fun e he => by have := h.1 e he; omega
    unfold setCell
    split_ifs with hlt hw hij hw'
    · rw [cellAt, if_neg (by omega), hrest (by omega), hw]
    · simp [cellAt]
    · rw [hrest (by omega), hw']
    · simp [cellAt]
    · rw [cellAt, if_neg (by omega), cellAt_setCell_self i w h.2]

theorem cellAt_setCell_ne {i k : Nat} (hk : k ≠ i) (w : UInt32) :
    ∀ l : List (Nat × UInt32), cellAt k (setCell i w l) = cellAt k l
  | [] => by
    unfold setCell
    split_ifs <;> simp [cellAt, hk]
  | (j, x) :: rest => by
    unfold setCell
    split_ifs with hlt hw hij hw'
    · rfl
    · simp [cellAt, hk]
    · subst hij
      simp [cellAt, hk]
    · subst hij
      simp [cellAt, hk]
    · simp only [cellAt]
      rw [cellAt_setCell_ne hk w rest]

namespace Rcc

theorem find?_setAt_ne {off off' : UInt32} (h : off' ≠ off) (v : UInt32) :
    ∀ l : List (UInt32 × UInt32), (setAt off' v l).find? (·.1 == off) = l.find? (·.1 == off)
  | [] => rfl
  | e :: rest => by
    unfold setAt
    split
    · rename_i he
      have hne : e.1 ≠ off := he ▸ h
      simp [hne]
    · simp [List.find?_cons, find?_setAt_ne h v rest]

theorem read_write_ne (r : Rcc) {off off' : UInt32} (h : off' ≠ off) (v : UInt32) :
    (r.write off' v).read off = r.read off := by
  simp [read, write, find?_setAt_ne h v]

end Rcc

namespace GpioLayout

def odrOffset : GpioLayout → UInt32
  | .f1 => 0x0C
  | .v2 => 0x14

def bsrrOffset : GpioLayout → UInt32
  | .f1 => 0x10
  | .v2 => 0x18

def brrOffset : GpioLayout → UInt32
  | .f1 => 0x14
  | .v2 => 0x28

end GpioLayout

namespace Gpio

theorem read_odr (g : Gpio) : g.read g.layout.odrOffset = g.odr := by
  unfold read
  split <;> simp_all [GpioLayout.odrOffset]

theorem read_odr_write (g : Gpio) (off v : UInt32) :
    (g.write off v).read g.layout.odrOffset = (g.write off v).odr := by
  have h := read_odr (g.write off v)
  rwa [layout_write] at h

/-- The output data register keeps its 16 bits of what is written to it. -/
theorem odr_write_odr (g : Gpio) (v : UInt32) :
    (g.write g.layout.odrOffset v).odr = v &&& 0xFFFF := by
  unfold write
  split <;> simp_all [GpioLayout.odrOffset]

/-- Only the output data register and the two registers that set and clear its bits move it. -/
theorem odr_write_ne (g : Gpio) {off : UInt32} (h1 : off ≠ g.layout.odrOffset)
    (h2 : off ≠ g.layout.bsrrOffset) (h3 : off ≠ g.layout.brrOffset) (v : UInt32) :
    (g.write off v).odr = g.odr := by
  unfold write
  split <;>
  · rename_i hl
    simp only [hl, GpioLayout.odrOffset, GpioLayout.bsrrOffset, GpioLayout.brrOffset] at h1 h2 h3
    simp only [apply_ite Gpio.odr, h1, h2, h3, if_false, ite_self]

end Gpio

theorem Gpio.pinLevel_eq (g : Gpio) {p : Nat} (hp : p < 16) :
    g.pinLevel p = g.odr.toNat.testBit p := by
  have hsh : (g.odr >>> p.toUInt32).toNat = g.odr.toNat >>> p := by
    rw [UInt32.toNat_shiftRight]
    simp [Nat.toUInt32, Nat.mod_eq_of_lt (show p < 32 by omega)]
  have hbit : ((g.odr >>> p.toUInt32) &&& 1 == 1) = g.odr.toNat.testBit p := by
    rw [Bool.eq_iff_iff, beq_iff_eq, ← UInt32.toNat_inj, UInt32.toNat_and, hsh,
      Nat.testBit_eq_decide_div_mod_eq, Nat.shiftRight_eq_div_pow]
    simp [Nat.and_one_is_mod]
  simp [Gpio.pinLevel, hp, hbit]

namespace Device

/-- The model reads back at `off`, on bit `pin`, the last value written there: the output data
register of a GPIO port for a pin below 16, an enable register of an RCC block, a whole word of
memory. -/
def ReadsBack : Device → UInt32 → UInt8 → Prop
  | .gpio g, off, pin => off = g.layout.odrOffset ∧ pin < 16
  | .rcc r, off, _ => off ∈ r.enable.map Prod.fst
  | .memory m, off, _ => off.toNat / 4 < m.count

def Tidy : Device → Prop
  | .memory m => Ordered m.cells
  | _ => True

/-- A write at `off'` cannot move the word read at `off`: another word and, on a GPIO port, none
of the registers that move the output data. -/
def Apart : Device → UInt32 → UInt32 → Prop
  | .gpio g, off', off => off' ≠ off ∧ off' ≠ g.layout.bsrrOffset ∧ off' ≠ g.layout.brrOffset
  | .rcc _, off', off => off' ≠ off
  | .memory _, off', off => off'.toNat / 4 ≠ off.toNat / 4

/-! What a model reads back, and what a write cannot reach, are settled by what it powers on to. -/

theorem readsBack_reset {d : Device} {off : UInt32} {pin : UInt8} :
    d.reset.ReadsBack off pin ↔ d.ReadsBack off pin := by
  cases d with
  | gpio g => rfl
  | rcc r => simp [reset, ReadsBack, Rcc.reset_eq]
  | memory m => rfl

theorem apart_reset {d : Device} {off' off : UInt32} : d.reset.Apart off' off ↔ d.Apart off' off := by
  cases d <;> rfl

theorem readsBack_of_reset {d d' : Device} (h : d'.reset = d.reset) {off : UInt32} {pin : UInt8} :
    d'.ReadsBack off pin ↔ d.ReadsBack off pin := by
  rw [← readsBack_reset, h, readsBack_reset]

theorem apart_of_reset {d d' : Device} (h : d'.reset = d.reset) {off' off : UInt32} :
    d'.Apart off' off ↔ d.Apart off' off := by
  rw [← apart_reset, h, apart_reset]

/-! Writes, forced values and power-on keep memory tables in order. -/

theorem Tidy.write {d d' : Device} {off v : UInt32} (h : d.write off v = .ok d') (ht : d.Tidy) :
    d'.Tidy := by
  cases d with
  | gpio g =>
    cases h
    trivial
  | rcc r =>
    cases h
    trivial
  | memory m =>
    simp only [Device.write, Memory.write] at h
    split at h
    · simp only [Except.map, Except.ok.injEq] at h
      subst h
      exact ordered_setCell _ v ht
    · cases h

theorem Tidy.preset {d d' : Device} {off v : UInt32} (h : d.preset off v = .ok d') (ht : d.Tidy) :
    d'.Tidy := by
  cases d with
  | gpio g =>
    cases h
    trivial
  | rcc r => exact Tidy.write (show (Device.rcc r).write off v = .ok d' from h) ht
  | memory m => exact Tidy.write (show (Device.memory m).write off v = .ok d' from h) ht

theorem Tidy.presetAll : ∀ {d : Device} (rv : List (UInt32 × UInt32)), d.Tidy → (presetAll d rv).1.Tidy
  | d, [], ht => ht
  | d, (off, v) :: rest, ht => by
    unfold Heartbeat.presetAll
    split
    · rename_i d' hd
      exact Tidy.presetAll rest (ht.preset hd)
    · exact ht

theorem tidy_of_reset {d : Device} (h : d.reset = d) : d.Tidy := by
  cases d with
  | gpio g => trivial
  | rcc r => trivial
  | memory m =>
    simp only [reset, Device.memory.injEq, Memory.reset] at h
    rw [Tidy, ← h]
    exact List.Pairwise.nil

/-! What a model reads back after a write. -/

theorem ReadsBack.read_ok {d : Device} {off : UInt32} {pin : UInt8} (h : d.ReadsBack off pin) :
    ∃ x, d.read off = .ok x := by
  cases d with
  | gpio g => exact ⟨_, rfl⟩
  | rcc r => exact ⟨_, rfl⟩
  | memory m => exact (Memory.read_ok_iff m off).mpr h

theorem ReadsBack.read_write {d d' : Device} {off v : UInt32} {pin : UInt8} (h : d.ReadsBack off pin)
    (ht : d.Tidy) (hd : d.write off v = .ok d') :
    ∃ x, d'.read off = .ok x ∧ x.toNat.testBit pin.toNat = v.toNat.testBit pin.toNat := by
  cases d with
  | gpio g =>
    obtain ⟨rfl, hp⟩ := h
    cases hd
    refine ⟨_, rfl, ?_⟩
    -- the port keeps the low 16 bits of its output data
    show ((g.write g.layout.odrOffset v).read g.layout.odrOffset).toNat.testBit _ = _
    rw [Gpio.read_odr_write, Gpio.odr_write_odr,
      testBit_low_half v (by simpa [UInt8.lt_iff_toNat_lt] using hp)]
  | rcc r =>
    cases hd
    exact ⟨v, by simp [read, Rcc.read_write_self h v], rfl⟩
  | memory m =>
    have hw : off.toNat / 4 < m.count := h
    simp only [Device.write, Memory.write, if_pos hw, Except.map, Except.ok.injEq] at hd
    subst hd
    refine ⟨v, ?_, rfl⟩
    simp only [read, Memory.read, if_pos hw, cellAt_setCell_self _ v ht]

theorem ReadsBack.read_write_apart {d d' : Device} {off off' v : UInt32} {pin : UInt8}
    (h : d.ReadsBack off pin) (ha : d.Apart off' off) (hd : d.write off' v = .ok d') :
    d'.read off = d.read off := by
  cases d with
  | gpio g =>
    obtain ⟨rfl, -⟩ := h
    obtain ⟨h1, h2, h3⟩ := ha
    cases hd
    simp only [read]
    rw [Gpio.read_odr_write, Gpio.read_odr, Gpio.odr_write_ne g h1 h2 h3]
  | rcc r =>
    cases hd
    simp [read, Rcc.read_write_ne r ha v]
  | memory m =>
    simp only [Device.write, Memory.write] at hd
    split at hd
    · simp only [Except.map, Except.ok.injEq] at hd
      subst hd
      simp only [read, Memory.read, cellAt_setCell_ne (Ne.symm ha)]
    · cases hd

end Device

end Heartbeat
