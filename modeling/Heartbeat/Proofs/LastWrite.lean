import Heartbeat.Device.Ops
import Heartbeat.Proofs.Echo
import Heartbeat.Proofs.Reset

/-!
# Enable registers and plain memory hold the last value stored

An RCC block and a plain memory are stores: a read answers the last value written or forced at
the cell it names since the last reset, zero when there is none. The RCC block's cells are its
enable registers, one per offset of its layout, and it ignores every other offset; a memory's
cells are its whole words, all four byte offsets of a word naming the same cell, and an offset
past the last whole word is refused with a fault at that offset, the memory left as it was.

The reference is `DeviceOp.lastStored`, a fold over the operations. After any operations a fresh
block is the block holding, at each enable offset in the layout's order, that offset's last value
(`Device.performAll_rcc_holding`); a fresh memory keeps, in index order, exactly the words whose
last value is not zero (`Memory.Holds`, `Memory.Holds.performAll`), so its snapshot lists those
words under their byte offsets.

* `DeviceOp.store`, `DeviceOp.lastStored` : what the operations leave in a cell;
* `Rcc.holding`, `Rcc.read_holding`, `Rcc.write_holding`, `Rcc.reset_holding` : a block by its
  values;
* `Memory.Holds`, `Memory.Holds.mem_iff`, `Memory.Holds.perform` : a memory by its words;
* `Text.hexValue`, `Text.hexAtLeast_inj` : a snapshot key names its word;
* `Device.rcc_keeps_last_write`, `Device.memory_keeps_last_write`,
  `Device.stores_keep_last_write` : both stores, with their snapshots.
-/

namespace Heartbeat

namespace DeviceOp

/-- What an operation leaves in a cell that the offsets `hits` name, from the value `w` it held:
a write or a forced value there stores its value, a reset zero, anything else keeps `w`. -/
def store (hits : UInt32 → Bool) (w : UInt32) : DeviceOp → UInt32
  | .write off v => if hits off then v else w
  | .preset off v => if hits off then v else w
  | .reset => 0

/-- The value last written or forced at an offset `hits` names since the last reset; zero when
there is none. -/
def lastStored (hits : UInt32 → Bool) (ops : List DeviceOp) : UInt32 :=
  ops.foldl (store hits) 0

end DeviceOp

open DeviceOp

/-! ### An RCC block by its values -/

namespace Rcc

/-- The block of a layout holding `word off` at each enable offset, in the layout's order. -/
def holding (l : RccLayout) (word : UInt32 → UInt32) : Rcc :=
  ⟨l, l.enableOffsets.map fun off => (off, word off)⟩

theorem init_eq_holding (l : RccLayout) : init l = holding l fun _ => 0 := rfl

theorem enableOffsets_nodup (l : RccLayout) : l.enableOffsets.Nodup := by
  cases l <;> decide

theorem find?_map_pair (word : UInt32 → UInt32) (off : UInt32) :
    ∀ keys : List UInt32, (keys.map fun k => (k, word k)).find? (·.1 == off) =
      if off ∈ keys then some (off, word off) else none
  | [] => rfl
  | k :: keys => by
    by_cases hk : k = off
    · subst hk
      simp
    · simp [hk, Ne.symm hk, find?_map_pair word off keys]

theorem setAt_map_pair (word : UInt32 → UInt32) (off v : UInt32) :
    ∀ {keys : List UInt32}, keys.Nodup →
      setAt off v (keys.map fun k => (k, word k)) =
        keys.map fun k => (k, if k = off then v else word k)
  | [], _ => rfl
  | k :: keys, hnd => by
    rw [List.nodup_cons] at hnd
    by_cases hk : k = off
    · subst hk
      have hrest : (keys.map fun k' => (k', word k')) =
          keys.map fun k' => (k', if k' = k then v else word k') :=
        List.map_congr_left fun k' hk' => by
          rw [if_neg (show k' ≠ k from fun h => hnd.1 (h ▸ hk'))]
      simp [setAt, hrest]
    · simp [setAt, hk, setAt_map_pair word off v hnd.2]

variable (l : RccLayout) (word : UInt32 → UInt32)

theorem read_holding (off : UInt32) :
    (holding l word).read off = if off ∈ l.enableOffsets then word off else 0 := by
  rw [read, holding]
  simp only [find?_map_pair]
  split_ifs <;> rfl

theorem write_holding (off v : UInt32) :
    (holding l word).write off v = holding l fun k => if k = off then v else word k := by
  rw [write, holding, holding, setAt_map_pair word off v (enableOffsets_nodup l)]

theorem reset_holding : (holding l word).reset = holding l fun _ => 0 := by
  simp [reset, holding, Function.comp_def]

end Rcc

/-! ### A memory by its words -/

theorem mem_setCell_stored {i : Nat} {w : UInt32} :
    ∀ {l : List (Nat × UInt32)} {e : Nat × UInt32}, e ∈ setCell i w l → (e = (i, w) ∧ w ≠ 0) ∨ e ∈ l
  | [], e, h => by
    unfold setCell at h
    split_ifs at h with hw
    · cases h
    · exact .inl ⟨List.mem_singleton.mp h, hw⟩
  | (j, x) :: rest, e, h => by
    unfold setCell at h
    split_ifs at h with hlt hw hij hw'
    · exact .inr h
    · rcases List.mem_cons.mp h with rfl | h
      · exact .inl ⟨rfl, hw⟩
      · exact .inr h
    · exact .inr (List.mem_cons_of_mem _ h)
    · rcases List.mem_cons.mp h with rfl | h
      · exact .inl ⟨rfl, hw'⟩
      · exact .inr (List.mem_cons_of_mem _ h)
    · rcases List.mem_cons.mp h with rfl | h
      · exact .inr List.mem_cons_self
      · rcases mem_setCell_stored h with h | h
        · exact .inl h
        · exact .inr (List.mem_cons_of_mem _ h)

theorem cellAt_of_mem {i : Nat} {w : UInt32} :
    ∀ {l : List (Nat × UInt32)}, Ordered l → (i, w) ∈ l → cellAt i l = w
  | [], _, h => by cases h
  | (j, x) :: rest, hord, h => by
    rw [Ordered, List.pairwise_cons] at hord
    rcases List.mem_cons.mp h with h | h
    · rw [Prod.mk.injEq] at h
      rw [cellAt, if_pos h.1, h.2]
    · have hji : j < i := hord.1 (i, w) h
      rw [cellAt, if_neg (Nat.ne_of_gt hji)]
      exact cellAt_of_mem hord.2 h

theorem mem_of_cellAt_ne_zero {i : Nat} :
    ∀ {l : List (Nat × UInt32)}, cellAt i l ≠ 0 → (i, cellAt i l) ∈ l
  | [], h => absurd rfl h
  | (j, x) :: rest, h => by
    by_cases hij : i = j
    · subst hij
      rw [cellAt, if_pos rfl]
      exact List.mem_cons_self
    · rw [cellAt, if_neg hij] at h ⊢
      exact List.mem_cons_of_mem _ (mem_of_cellAt_ne_zero h)

/-! ### Keys of a memory snapshot -/

namespace Text

def hexDigitValue (c : Char) : Nat :=
  if c.isDigit then c.toNat - '0'.toNat else c.toNat - 'a'.toNat + 10

def hexValue (ds : List Char) : Nat := ds.foldl (fun n c => 16 * n + hexDigitValue c) 0

theorem hexDigitValue_digitChar : ∀ d < 16, hexDigitValue (Nat.digitChar d) = d := by decide

theorem hexValue_append_digit (ds : List Char) (c : Char) :
    hexValue (ds ++ [c]) = 16 * hexValue ds + hexDigitValue c := by
  simp [hexValue, List.foldl_append]

theorem hexValue_toDigits (n : Nat) : hexValue (Nat.toDigits 16 n) = n := by
  induction n using Nat.strongRecOn with
  | ind n ih =>
    by_cases hn : n < 16
    · rw [Nat.toDigits_of_lt_base hn, ← List.nil_append [_], hexValue_append_digit,
        hexDigitValue_digitChar n hn]
      simp [hexValue]
    · -- the digits of `n` are those of `n / 16`, then the digit of `n % 16`
      have hq : 0 < n / 16 := Nat.div_pos (by omega) (by decide)
      have hd : n % 16 < 16 := Nat.mod_lt _ (by decide)
      have hsplit := Nat.toDigits_append_toDigits (by decide : 1 < 16) hq hd
      rw [Nat.div_add_mod] at hsplit
      rw [← hsplit, Nat.toDigits_of_lt_base hd, hexValue_append_digit, ih (n / 16) (by omega),
        hexDigitValue_digitChar _ hd]
      omega

theorem hexValue_zeros (k : Nat) (ds : List Char) :
    hexValue (List.replicate k '0' ++ ds) = hexValue ds := by
  have hz : ∀ k, (List.replicate k '0').foldl (fun n c => 16 * n + hexDigitValue c) 0 = 0 := by
    intro k
    induction k with
    | zero => rfl
    | succ k ih => rw [List.replicate_succ', List.foldl_append, ih]; rfl
  rw [hexValue, List.foldl_append, hz]
  rfl

theorem hexAtLeast_inj {w a b : Nat} (h : hexAtLeast w a = hexAtLeast w b) : a = b := by
  have hl := congrArg String.toList h
  simp only [hexAtLeast, padded, digits, String.toList_append, String.toList_ofList,
    List.append_cancel_left_eq] at hl
  have hv := congrArg hexValue hl
  rwa [hexValue_zeros, hexValue_zeros, hexValue_toDigits, hexValue_toDigits] at hv

end Text

namespace Memory

/-- A memory whose table lists, in index order, exactly its non-zero words, each below its
count, and whose word `i` below the count is `word i`. -/
structure Holds (m : Memory) (word : Nat → UInt32) : Prop where
  ordered : Ordered m.cells
  nonzero : ∀ e ∈ m.cells, e.2 ≠ 0
  below : ∀ e ∈ m.cells, e.1 < m.count
  cellAt_eq : ∀ i < m.count, cellAt i m.cells = word i

theorem holds_nil (n : Nat) : (⟨n, []⟩ : Memory).Holds fun _ => 0 where
  ordered := List.Pairwise.nil
  nonzero _ h := by cases h
  below _ h := by cases h
  cellAt_eq _ _ := rfl

theorem holds_init (s : UInt64) : (init s).Holds fun _ => 0 := holds_nil _

variable {m : Memory} {word : Nat → UInt32}

theorem Holds.mem_iff (h : m.Holds word) {i : Nat} {w : UInt32} :
    (i, w) ∈ m.cells ↔ i < m.count ∧ word i ≠ 0 ∧ w = word i := by
  constructor
  · intro he
    have hi : i < m.count := h.below _ he
    have hw : cellAt i m.cells = w := cellAt_of_mem h.ordered he
    rw [h.cellAt_eq i hi] at hw
    exact ⟨hi, hw ▸ h.nonzero _ he, hw.symm⟩
  · rintro ⟨hi, hne, rfl⟩
    rw [← h.cellAt_eq i hi] at hne ⊢
    exact mem_of_cellAt_ne_zero hne

theorem Holds.setCell (h : m.Holds word) {i : Nat} (hi : i < m.count) (v : UInt32) :
    (⟨m.count, setCell i v m.cells⟩ : Memory).Holds fun k => if i = k then v else word k where
  ordered := ordered_setCell i v h.ordered
  nonzero e he := by
    rcases mem_setCell_stored he with ⟨rfl, hv⟩ | he
    · exact hv
    · exact h.nonzero e he
  below e he := by
    rcases mem_setCell he with he | he
    · exact he ▸ hi
    · exact h.below e he
  cellAt_eq k hk := by
    by_cases hik : i = k
    · subst hik
      rw [if_pos rfl]
      exact cellAt_setCell_self i v h.ordered
    · rw [if_neg hik]
      exact (cellAt_setCell_ne (Ne.symm hik) v m.cells).trans (h.cellAt_eq k hk)

theorem Holds.past (h : m.Holds word) {i : Nat} (hi : m.count ≤ i) (v : UInt32) :
    m.Holds fun k => if i = k then v else word k where
  ordered := h.ordered
  nonzero := h.nonzero
  below := h.below
  cellAt_eq k hk := by rw [if_neg (by omega)]; exact h.cellAt_eq k hk

theorem Holds.write (h : m.Holds word) (off v : UInt32) :
    (if off.toNat / 4 < m.count then ⟨m.count, Heartbeat.setCell (off.toNat / 4) v m.cells⟩
      else m : Memory).Holds fun k => if off.toNat / 4 = k then v else word k := by
  split_ifs with hi
  · exact h.setCell hi v
  · exact h.past (Nat.le_of_not_lt hi) v

theorem holds_reset (m : Memory) : m.reset.Holds fun _ => 0 := holds_nil _

end Memory

namespace Device

theorem perform_memory_write (m : Memory) (off v : UInt32) :
    (Device.memory m).perform (.write off v) = .memory (if off.toNat / 4 < m.count then
      ⟨m.count, setCell (off.toNat / 4) v m.cells⟩ else m) := by
  by_cases hi : off.toNat / 4 < m.count <;> simp [perform, write, Memory.write, hi, Except.map]

theorem perform_memory_preset (m : Memory) (off v : UInt32) :
    (Device.memory m).perform (.preset off v) = (Device.memory m).perform (.write off v) := rfl

theorem perform_memory_reset (m : Memory) : (Device.memory m).perform .reset = .memory m.reset :=
  rfl

end Device

theorem DeviceOp.store_word (op : DeviceOp) (w : Nat → UInt32) (k : Nat) (off v : UInt32)
    (hop : op = .write off v ∨ op = .preset off v) :
    op.store (fun o => o.toNat / 4 == k) (w k) = if off.toNat / 4 = k then v else w k := by
  rcases hop with rfl | rfl <;> simp [store]

theorem DeviceOp.store_reg (op : DeviceOp) (w : UInt32) (k : UInt32) (off v : UInt32)
    (hop : op = .write off v ∨ op = .preset off v) :
    op.store (· == k) w = if k = off then v else w := by
  by_cases hk : k = off
  · rcases hop with rfl | rfl <;> simp [store, hk]
  · rcases hop with rfl | rfl <;> simp [store, hk, Ne.symm hk]

namespace Memory

/-- One operation on a memory: the table keeps its shape, with each word what the operation
leaves in it. -/
theorem Holds.perform {m : Memory} {word : Nat → UInt32} (h : m.Holds word) (op : DeviceOp) :
    ∃ m', (Device.memory m).perform op = .memory m' ∧ m'.count = m.count ∧
      m'.Holds fun k => op.store (fun o => o.toNat / 4 == k) (word k) := by
  cases op with
  | write off v =>
    refine ⟨_, Device.perform_memory_write m off v, by split_ifs <;> rfl, ?_⟩
    simpa only [store_word _ word _ off v (.inl rfl)] using h.write off v
  | preset off v =>
    refine ⟨_, Device.perform_memory_write m off v, by split_ifs <;> rfl, ?_⟩
    simpa only [store_word _ word _ off v (.inr rfl)] using h.write off v
  | reset => exact ⟨_, Device.perform_memory_reset m, rfl, holds_reset m⟩

theorem Holds.performAll :
    ∀ (ops : List DeviceOp) {m : Memory} {word : Nat → UInt32}, m.Holds word →
      ∃ m', (Device.memory m).performAll ops = .memory m' ∧ m'.count = m.count ∧
        m'.Holds fun k => ops.foldl (store fun o => o.toNat / 4 == k) (word k)
  | [], m, _, h => ⟨m, rfl, rfl, h⟩
  | op :: ops, m, word, h => by
    obtain ⟨m₁, h₁, hc₁, hh₁⟩ := h.perform op
    obtain ⟨m₂, h₂, hc₂, hh₂⟩ := Holds.performAll ops hh₁
    exact ⟨m₂, by rw [Device.performAll_cons, h₁, h₂], hc₂.trans hc₁, hh₂⟩

/-- The snapshot names each non-zero word once, by its byte offset in hex. -/
theorem Holds.snapshot {m : Memory} {word : Nat → UInt32} (h : m.Holds word) :
    ∃ ms, (Device.memory m).snapshot = .obj ms ∧ (ms.map Prod.fst).Nodup ∧ ∀ k x, (k, x) ∈ ms ↔
      ∃ i < m.count, word i ≠ 0 ∧ k = Text.hexAtLeast 3 (i * 4) ∧ x = .ofNat (word i).toNat := by
  refine ⟨_, rfl, ?_, fun k x => ?_⟩
  · -- the table's indices increase, so their texts differ; sorting only permutes them
    have hkeys : (m.cells.map fun e => Text.hexAtLeast 3 (e.1 * 4)).Nodup := by
      rw [List.Nodup, List.pairwise_map]
      refine h.ordered.imp fun {a b} hlt heq => ?_
      have := Text.hexAtLeast_inj heq
      omega
    refine ((List.mergeSort_perm _ _).map Prod.fst).nodup_iff.mpr ?_
    simpa [Memory.used, List.map_map, Function.comp_def] using hkeys
  · simp only [Json.Value.sortMembers, List.mem_mergeSort, List.mem_map, Memory.used,
      Prod.mk.injEq]
    constructor
    · rintro ⟨⟨i, w⟩, he, rfl, rfl⟩
      obtain ⟨hi, hne, rfl⟩ := h.mem_iff.mp he
      exact ⟨i, hi, hne, rfl, rfl⟩
    · rintro ⟨i, hi, hne, rfl, rfl⟩
      exact ⟨(i, _), h.mem_iff.mpr ⟨hi, hne, rfl⟩, rfl, rfl⟩

end Memory

namespace Device

theorem perform_rcc_holding (l : RccLayout) (word : UInt32 → UInt32) (op : DeviceOp) :
    (Device.rcc (Rcc.holding l word)).perform op =
      .rcc (Rcc.holding l fun k => op.store (· == k) (word k)) := by
  cases op with
  | write off v =>
    rw [perform_rcc_write, Rcc.write_holding]
    simp only [store_reg _ _ _ off v (.inl rfl)]
  | preset off v =>
    rw [perform_rcc_preset, Rcc.write_holding]
    simp only [store_reg _ _ _ off v (.inr rfl)]
  | reset =>
    rw [perform_rcc_reset, Rcc.reset_holding]
    rfl

theorem performAll_rcc_holding (l : RccLayout) :
    ∀ (ops : List DeviceOp) (word : UInt32 → UInt32),
      (Device.rcc (Rcc.holding l word)).performAll ops =
        .rcc (Rcc.holding l fun k => ops.foldl (store (· == k)) (word k))
  | [], _ => rfl
  | op :: ops, word => by
    rw [performAll_cons, perform_rcc_holding, performAll_rcc_holding l ops]
    rfl

/-- A fresh block, after any operations, holds at each enable offset the last value stored there
since the last reset, and nothing anywhere else. -/
theorem rcc_keeps_last_write (l : RccLayout) (ops : List DeviceOp) : ∃ r : Rcc,
    (Device.rcc (Rcc.init l)).performAll ops = .rcc r ∧
    (∀ off, r.read off = if off ∈ l.enableOffsets then lastStored (· == off) ops else 0) ∧
    (∀ off v, off ∉ l.enableOffsets → r.write off v = r) ∧
    (Device.rcc r).snapshot = .obj [("enable", .arr (l.enableOffsets.map fun off =>
      .arr [.ofNat off.toNat, .ofNat (r.read off).toNat])), ("layout", .str l.name)] := by
  refine ⟨Rcc.holding l fun k => lastStored (· == k) ops, ?_, Rcc.read_holding l _, ?_, ?_⟩
  · rw [Rcc.init_eq_holding, performAll_rcc_holding]
    rfl
  · intro off v hoff
    rw [Rcc.write_holding]
    simp only [Rcc.holding]
    congr 1
    exact List.map_congr_left fun k hk => by rw [if_neg (show k ≠ off from fun h => hoff (h ▸ hk))]
  · have hvals : ∀ off ∈ l.enableOffsets,
        (Rcc.holding l fun k => lastStored (· == k) ops).read off = lastStored (· == off) ops :=
      fun off h => by rw [Rcc.read_holding, if_pos h]
    simp only [snapshot, Rcc.holding, List.map_map, Function.comp_def]
    congr 4
    exact List.map_congr_left fun off h => by rw [← hvals off h]; rfl

/-- A fresh memory of `s` bytes, after any operations, holds in each whole word the last value
stored at any of its offsets since the last reset, and refuses every offset past them. -/
theorem memory_keeps_last_write (s : UInt64) (ops : List DeviceOp) : ∃ m : Memory,
    (Device.memory (Memory.init s)).performAll ops = .memory m ∧
    (∀ off, m.read off = if off.toNat / 4 < s.toNat / 4
      then .ok (lastStored (fun o => o.toNat / 4 == off.toNat / 4) ops)
      else .error (.memoryViolation off)) ∧
    (∀ off v, s.toNat / 4 ≤ off.toNat / 4 →
      m.write off v = .error (.memoryViolation off) ∧
      (Device.memory m).perform (.write off v) = .memory m) ∧
    ∃ ms, (Device.memory m).snapshot = .obj ms ∧ (ms.map Prod.fst).Nodup ∧ ∀ k x, (k, x) ∈ ms ↔
      ∃ i < s.toNat / 4, lastStored (fun o => o.toNat / 4 == i) ops ≠ 0 ∧
        k = Text.hexAtLeast 3 (i * 4) ∧
        x = .ofNat (lastStored (fun o => o.toNat / 4 == i) ops).toNat := by
  obtain ⟨m, hm, hcount, hh⟩ := Memory.Holds.performAll ops (Memory.holds_init s)
  have hc : m.count = s.toNat / 4 := hcount
  refine ⟨m, hm, fun off => ?_, fun off v hoff => ?_, ?_⟩
  · rw [Memory.read, hc]
    split_ifs with hi
    · rw [hh.cellAt_eq _ (hc ▸ hi)]
      rfl
    · rfl
  · have hi : ¬ off.toNat / 4 < m.count := by omega
    refine ⟨by rw [Memory.write, if_neg hi], ?_⟩
    rw [perform_memory_write, if_neg hi]
  · rw [← hc]
    exact hh.snapshot

/-- **Enable registers and plain memory hold the last value stored.** After any writes, forced
values and resets, a fresh RCC block reads at each enable offset the last value stored there
since the last reset, zero when none, and zero at every other offset, where writes change
nothing; its snapshot lists the enable offsets in the layout's order with their values. A fresh
memory of `s` bytes reads at an offset whose word is below `s / 4` the last value stored at any
offset of that word since the last reset, zero when none, and refuses every other offset with a
fault at it, unchanged by a write there; its snapshot maps the byte offset of each word, in hex
with at least three digits, to the word's value, for exactly the words that are not zero. -/
theorem stores_keep_last_write :
    (∀ (l : RccLayout) (ops : List DeviceOp), ∃ r : Rcc,
      (Device.rcc (Rcc.init l)).performAll ops = .rcc r ∧
      (∀ off, r.read off = if off ∈ l.enableOffsets then lastStored (· == off) ops else 0) ∧
      (∀ off v, off ∉ l.enableOffsets → r.write off v = r) ∧
      (Device.rcc r).snapshot = .obj [("enable", .arr (l.enableOffsets.map fun off =>
        .arr [.ofNat off.toNat, .ofNat (r.read off).toNat])), ("layout", .str l.name)]) ∧
    (∀ (s : UInt64) (ops : List DeviceOp), ∃ m : Memory,
      (Device.memory (Memory.init s)).performAll ops = .memory m ∧
      (∀ off, m.read off = if off.toNat / 4 < s.toNat / 4
        then .ok (lastStored (fun o => o.toNat / 4 == off.toNat / 4) ops)
        else .error (.memoryViolation off)) ∧
      (∀ off v, s.toNat / 4 ≤ off.toNat / 4 →
        m.write off v = .error (.memoryViolation off) ∧
        (Device.memory m).perform (.write off v) = .memory m) ∧
      ∃ ms, (Device.memory m).snapshot = .obj ms ∧ (ms.map Prod.fst).Nodup ∧ ∀ k x, (k, x) ∈ ms ↔
        ∃ i < s.toNat / 4, lastStored (fun o => o.toNat / 4 == i) ops ≠ 0 ∧
          k = Text.hexAtLeast 3 (i * 4) ∧
          x = .ofNat (lastStored (fun o => o.toNat / 4 == i) ops).toNat) :=
  ⟨rcc_keeps_last_write, memory_keeps_last_write⟩

end Device

end Heartbeat
