import Mathlib
import Heartbeat.Bus.Basic

/-!
# Bus accesses: what changes and which fault is logged

A read through the register interface changes no model. A write changes the model of the first
window holding its address, exactly as that model's own write does, when the address is a
multiple of four, some window holds it, the window's clock gate does not block it and the model
takes the offset; in every other case no model changes and one fault is logged, the first check
that fails deciding which: `unaligned`, `memoryViolation` (no window), `clockDisabled`,
`memoryViolation` (the model refuses the offset). A read answers the model's value and logs
nothing, or answers zero and logs one fault chosen the same way.

All of this holds while the bus can search and count: every window's end inside 64 bits
(`Window.Fits`) and the cycle counter below its maximum. A window whose end does not fit stops
the bus when an address at or past its base is searched, and so does a tick at the maximum.

* `Window.Fits`, `Window.Holds`, `FirstHolding` : windows that can be searched, the addresses a
  window holds, the first window holding an address;
* `locate_first`, `locate_none` : the search finds the first window holding the address;
* `Bus.GateOpen`, `Bus.Blocked` : the gate check, on the bus before the write;
* `Bus.ReadSpec`, `Bus.WriteSpec` : the frame and the fault of an access, case by case;
* `Bus.access_spec` : every access of a running bus meets them.
-/

namespace Heartbeat

@[simp] theorem ok_bind {ε α β : Type} (a : α) (f : α → Except ε β) :
    (Except.ok a >>= f) = f a := rfl

@[simp] theorem ok_eq_pure {ε α : Type} (a : α) : (pure a : Except ε α) = .ok a := rfl

@[simp] theorem error_bind {ε α β : Type} (e : ε) (f : α → Except ε β) :
    (Except.error e >>= f) = .error e := rfl

@[simp] theorem throw_eq_error {ε α : Type} (e : ε) : (throw e : Except ε α) = .error e := rfl

/-! The model bounds its integers by the sizes of machine words; the proofs count in powers of
two. -/

@[simp] theorem UInt8.size_eq_two_pow : UInt8.size = 2 ^ 8 := rfl

@[simp] theorem UInt32.size_eq_two_pow : UInt32.size = 2 ^ 32 := rfl

@[simp] theorem UInt64.size_eq_two_pow : UInt64.size = 2 ^ 64 := rfl

theorem bind_eq_ok {ε α β : Type} {x : Except ε α} {f : α → Except ε β} {b : β} :
    (x >>= f) = .ok b ↔ ∃ a, x = .ok a ∧ f a = .ok b := by
  cases x <;> simp

namespace Window

/-- The window's end fits in 64 bits, so searching it never overflows. -/
def Fits (w : Window) : Prop := w.base.toNat + w.size.toNat < 2 ^ 64

def Holds (w : Window) (a : UInt32) : Prop :=
  w.base.toNat ≤ a.toNat ∧ a.toNat < w.base.toNat + w.size.toNat

instance (w : Window) : Decidable w.Fits := inferInstanceAs (Decidable (_ < _))

instance (w : Window) (a : UInt32) : Decidable (w.Holds a) := inferInstanceAs (Decidable (_ ∧ _))

theorem holds?_of_fits {w : Window} (h : w.Fits) (a : UInt32) :
    w.holds? a = .ok (decide (w.Holds a)) := by
  by_cases hb : a.toNat < w.base.toNat
  · have hn : ¬ w.Holds a := fun hw => by unfold Holds at hw; omega
    rw [holds?, if_pos hb, decide_eq_false hn]
  · have hend : ¬ w.base.toNat + w.size.toNat ≥ UInt64.size := Nat.not_le.mpr h
    have hiff : a.toNat < w.base.toNat + w.size.toNat ↔ w.Holds a := by unfold Holds; omega
    rw [holds?, if_neg hb, if_neg hend]
    congr 1
    exact decide_eq_decide.mpr hiff

end Window

/-- The window at position `i` of `ws` is the first that holds `a`. -/
def FirstHolding (ws : List Window) (a : UInt32) (i : Nat) (w : Window) : Prop :=
  ws[i]? = some w ∧ w.Holds a ∧ ∀ u ∈ ws.take i, ¬ u.Holds a

theorem FirstHolding.unique {ws : List Window} {a : UInt32} {i j : Nat} {w u : Window}
    (h1 : FirstHolding ws a i w) (h2 : FirstHolding ws a j u) : i = j ∧ w = u := by
  have before : ∀ {i j w u}, FirstHolding ws a i w → FirstHolding ws a j u → ¬ i < j := by
    intro i j w u h1 h2 hlt
    have hmem : w ∈ ws.take j := by
      apply List.mem_of_getElem?
      rw [List.getElem?_take_of_lt hlt]
      exact h1.1
    exact h2.2.2 w hmem h1.2.1
  have hij : i = j := by
    have := before h1 h2
    have := before h2 h1
    omega
  subst hij
  refine ⟨rfl, ?_⟩
  have := h1.1.symm.trans h2.1
  exact Option.some.inj this

theorem firstHolding_cons_zero (w : Window) (ws : List Window) (a : UInt32) (h : w.Holds a) :
    FirstHolding (w :: ws) a 0 w :=
  ⟨rfl, h, by simp⟩

theorem firstHolding_cons_succ {w u : Window} {ws : List Window} {a : UInt32} {i : Nat}
    (hw : ¬ w.Holds a) (h : FirstHolding ws a i u) : FirstHolding (w :: ws) a (i + 1) u := by
  refine ⟨h.1, h.2.1, ?_⟩
  intro v hv
  rw [List.take_succ_cons, List.mem_cons] at hv
  rcases hv with rfl | hv
  · exact hw
  · exact h.2.2 v hv

/-- The search of windows that fit: it finds the first window holding the address, or tells that
none does. The induction follows `locate` down the list. -/
theorem locate_fits (ws : List Window) (a : UInt32) (h : ∀ w ∈ ws, w.Fits) :
    (∃ i w, locate ws a = .ok (some (i, w)) ∧ FirstHolding ws a i w) ∨
      (locate ws a = .ok none ∧ ∀ w ∈ ws, ¬ w.Holds a) := by
  induction ws with
  | nil => exact .inr ⟨rfl, by simp⟩
  | cons w ws ih =>
    have hw := Window.holds?_of_fits (h w (by simp)) a
    by_cases hh : w.Holds a
    · exact .inl ⟨0, w, by simp [locate, hw, hh], firstHolding_cons_zero w ws a hh⟩
    · rcases ih (fun u hu => h u (by simp [hu])) with ⟨i, u, hloc, hfirst⟩ | ⟨hloc, hnone⟩
      · exact .inl ⟨i + 1, u, by simp [locate, hw, hh, hloc], firstHolding_cons_succ hh hfirst⟩
      · refine .inr ⟨by simp [locate, hw, hh, hloc], ?_⟩
        intro v hv
        rcases List.mem_cons.mp hv with rfl | hv
        · exact hh
        · exact hnone v hv

theorem locate_first {ws : List Window} {a : UInt32} {i : Nat} {w : Window}
    (h : ∀ w ∈ ws, w.Fits) (hf : FirstHolding ws a i w) : locate ws a = .ok (some (i, w)) := by
  rcases locate_fits ws a h with ⟨j, u, hloc, hu⟩ | ⟨-, hnone⟩
  · obtain ⟨rfl, rfl⟩ := hf.unique hu
    exact hloc
  · exact absurd hf.2.1 (hnone w (List.mem_of_getElem? hf.1))

theorem locate_none {ws : List Window} {a : UInt32} (h : ∀ w ∈ ws, w.Fits)
    (hn : ∀ w ∈ ws, ¬ w.Holds a) : locate ws a = .ok none := by
  rcases locate_fits ws a h with ⟨i, w, -, hw⟩ | ⟨hloc, -⟩
  · exact absurd hw.2.1 (hn w (List.mem_of_getElem? hw.1))
  · exact hloc

theorem locate_getElem? {ws : List Window} {a : UInt32} {i : Nat} {w : Window}
    (h : locate ws a = .ok (some (i, w))) : ws[i]? = some w := by
  induction ws generalizing i with
  | nil => simp [locate] at h
  | cons u ws ih =>
    cases hu : u.holds? a with
    | error e => simp [locate, hu] at h
    | ok held =>
      cases held with
      | true =>
        simp [locate, hu] at h
        obtain ⟨rfl, rfl⟩ := h
        rfl
      | false =>
        cases hl : locate ws a with
        | error e => simp [locate, hu, hl] at h
        | ok r =>
          cases r with
          | none => simp [locate, hu, hl] at h
          | some r =>
            obtain ⟨j, v⟩ := r
            simp [locate, hu, hl] at h
            obtain ⟨rfl, rfl⟩ := h
            exact ih hl

namespace Bus

variable {ω : Type}

def Fits (b : Bus ω) : Prop := ∀ w ∈ b.windows, w.Fits

instance (b : Bus ω) : Decidable b.Fits := inferInstanceAs (Decidable (∀ w ∈ b.windows, w.Fits))

/-- The register a gate names holds every bit of the gate's mask, as `peek` reads it. -/
def GateOpen (b : Bus ω) (g : ClockGate) : Prop :=
  ∃ x, b.peek g.register.addr = .ok (some x) ∧ x &&& g.mask = g.mask

/-- Gating is on and the window has a gate that is not open: writes to the window are dropped. -/
def Blocked (b : Bus ω) (w : Window) : Prop :=
  b.gating = true ∧ ∃ g, w.gate = some g ∧ ¬ b.GateOpen g

theorem gateOpen_of_open {b : Bus ω} {g : ClockGate} (h : b.GateOpen g) :
    b.gateOpen g = .ok true := by
  obtain ⟨x, hx, hm⟩ := h
  simp [gateOpen, hx, hm]

theorem blocked_of_not_blocked {b : Bus ω} {w : Window} (h : ¬ b.Blocked w) : b.blocked w = .ok false := by
  cases hg : b.gating with
  | false => simp [blocked, hg]
  | true =>
    cases hw : w.gate with
    | none => simp [blocked, hg, hw]
    | some g =>
      have hopen : b.GateOpen g := Classical.byContradiction fun hn => h ⟨hg, g, hw, hn⟩
      simp [blocked, hg, hw, gateOpen_of_open hopen]

theorem readWord_unaligned (b : Bus ω) {a : UInt32} (ha : a % 4 ≠ 0) :
    b.readWord a = .ok (.error (.unaligned a)) := by
  simp [readWord, ha]

theorem writeWord_unaligned (b : Bus ω) {a : UInt32} (v : UInt32) (ha : a % 4 ≠ 0) :
    b.writeWord a v = .ok (.error (.unaligned a)) := by
  simp [writeWord, ha]

theorem tick_eq (b : Bus ω) (hc : b.cycle ≠ 0xFFFFFFFFFFFFFFFF) : b.tick = .ok (b.cycle + 1) := by
  simp [tick, hc]

/-! ### What any access may change

Whatever the bus, halted or not, an access changes the windows only by giving one of them a new
device, and logs at most one fault. -/

theorem writeWord_ok_write {b b' : Bus ω} {a v : UInt32} (h : b.writeWord a v = .ok (.ok b')) :
    ∃ i w d, b.windows[i]? = some w ∧ w.device.write (a - w.base) v = .ok d ∧
      b' = { b with windows := b.windows.set i { w with device := d } } := by
  unfold writeWord at h
  split at h
  · cases h
  · cases hl : locate b.windows a with
    | error e => simp [hl] at h
    | ok r =>
      rcases r with _ | ⟨i, w⟩
      · simp [hl] at h
      · cases hb : b.blocked w with
        | error e => simp [hl, hb] at h
        | ok blocked =>
          cases blocked
          · cases hd : w.device.write (a - w.base) v with
            | error e => simp [hl, hb, hd] at h
            | ok d =>
              simp only [hl, hb, hd, ok_bind, Bool.false_eq_true, if_false, ok_eq_pure,
                Except.ok.injEq] at h
              exact ⟨i, w, d, locate_getElem? hl, hd, h.symm⟩
          · simp [hl, hb] at h

theorem writeWord_ok_eq {b b' : Bus ω} {a v : UInt32} (h : b.writeWord a v = .ok (.ok b')) :
    ∃ i w d, b.windows[i]? = some w ∧
      b' = { b with windows := b.windows.set i { w with device := d } } := by
  obtain ⟨i, w, d, hi, -, rfl⟩ := writeWord_ok_write h
  exact ⟨i, w, d, hi, rfl⟩

/-- The windows after an access: as they were, or one of them with a new device. -/
def Reshaped (ws ws' : List Window) : Prop :=
  ws' = ws ∨ ∃ i w d, ws[i]? = some w ∧ ws' = ws.set i { w with device := d }

/-- The fault log after an access: as it was, or one fault newer. -/
def Logged (log log' : List Fault) : Prop :=
  log' = log ∨ ∃ f, log' = f :: log

theorem writeAt_frame [Observer ω] {b b' : Bus ω} {a v : UInt32} (h : b.writeAt a v = .ok b') :
    Reshaped b.windows b'.windows ∧ Logged b.faultLog b'.faultLog := by
  unfold writeAt at h
  cases ht : b.tick with
  | error e => simp [ht] at h
  | ok cycle =>
    cases hw : b.writeWord a v with
    | error e => simp [ht, hw] at h
    | ok r =>
      cases hn : b.nameAt a with
      | error e => simp [ht, hw, hn] at h
      | ok name =>
        cases r with
        | ok b'' =>
          obtain ⟨i, w, d, hi, rfl⟩ := writeWord_ok_eq hw
          simp only [ht, hw, hn, ok_bind, ok_eq_pure, Except.ok.injEq] at h
          subst h
          exact ⟨.inr ⟨i, w, d, hi, rfl⟩, .inl rfl⟩
        | error f =>
          simp only [ht, hw, hn, ok_bind, ok_eq_pure, Except.ok.injEq] at h
          subst h
          exact ⟨.inl rfl, .inr ⟨f, rfl⟩⟩

theorem write_frame [Observer ω] (b : Bus ω) (a v : UInt32) :
    Reshaped b.windows (b.write a v).windows ∧ Logged b.faultLog (b.write a v).faultLog := by
  unfold write
  split
  · exact ⟨.inl rfl, .inl rfl⟩
  · cases hw : b.writeAt a v with
    | error e => exact ⟨.inl rfl, .inl rfl⟩
    | ok b' => exact writeAt_frame hw

theorem read_frame [Observer ω] (b : Bus ω) (a : UInt32) :
    (b.read a).2.windows = b.windows ∧ Logged b.faultLog (b.read a).2.faultLog := by
  unfold read
  split
  · exact ⟨rfl, .inl rfl⟩
  · unfold readAt
    cases ht : b.tick with
    | error e => exact ⟨rfl, .inl rfl⟩
    | ok cycle =>
      cases hr : b.readWord a with
      | error e => exact ⟨rfl, .inl rfl⟩
      | ok r =>
        cases hn : b.nameAt a with
        | error e => exact ⟨rfl, .inl rfl⟩
        | ok name =>
          cases r with
          | ok x => exact ⟨rfl, .inl rfl⟩
          | error f => exact ⟨rfl, .inr ⟨f, rfl⟩⟩

theorem Reshaped.fits {ws ws' : List Window} (h : Reshaped ws ws') (hfit : ∀ w ∈ ws, w.Fits) :
    ∀ w ∈ ws', w.Fits := by
  rcases h with rfl | ⟨i, w, d, hi, rfl⟩
  · exact hfit
  · intro u hu
    rcases List.mem_or_eq_of_mem_set hu with hu | rfl
    · exact hfit u hu
    · exact hfit w (List.mem_of_getElem? hi)

section Fits

variable {b : Bus ω} (hfit : b.Fits)
include hfit

theorem peek_ok (a : UInt32) : ∃ p, b.peek a = .ok p := by
  rcases locate_fits b.windows a hfit with ⟨i, w, hloc, -⟩ | ⟨hloc, -⟩
  · cases hr : w.device.read (a - w.base) <;> simp [peek, hloc, hr]
  · simp [peek, hloc]

theorem nameAt_ok (a : UInt32) : ∃ n, b.nameAt a = .ok n := by
  rcases locate_fits b.windows a hfit with ⟨i, w, hloc, -⟩ | ⟨hloc, -⟩
  · exact ⟨some w.name, by simp [nameAt, hloc]⟩
  · exact ⟨none, by simp [nameAt, hloc]⟩

theorem gateOpen_of_not_open {g : ClockGate} (h : ¬ b.GateOpen g) : b.gateOpen g = .ok false := by
  obtain ⟨p, hp⟩ := peek_ok hfit g.register.addr
  cases p with
  | none => simp [gateOpen, hp]
  | some x =>
    have hm : ¬ x &&& g.mask = g.mask := fun hm => h ⟨x, hp, hm⟩
    simp [gateOpen, hp, hm]

theorem blocked_of_blocked {w : Window} (h : b.Blocked w) : b.blocked w = .ok true := by
  obtain ⟨hg, g, hw, hopen⟩ := h
  simp [blocked, hg, hw, gateOpen_of_not_open hfit hopen]

/-! ### The checks of a direct read and write, in their order -/

variable {a : UInt32} (ha : a % 4 = 0)
include ha

theorem readWord_unmapped (hn : ∀ w ∈ b.windows, ¬ w.Holds a) :
    b.readWord a = .ok (.error (.memoryViolation a)) := by
  simp [readWord, ha, locate_none hfit hn]

theorem readWord_served {i : Nat} {w : Window} {x : UInt32} (hf : FirstHolding b.windows a i w)
    (hr : w.device.read (a - w.base) = .ok x) : b.readWord a = .ok (.ok x) := by
  simp [readWord, ha, locate_first hfit hf, hr]

theorem readWord_refused {i : Nat} {w : Window} {e : Fault} (hf : FirstHolding b.windows a i w)
    (hr : w.device.read (a - w.base) = .error e) :
    b.readWord a = .ok (.error (.memoryViolation a)) := by
  simp [readWord, ha, locate_first hfit hf, hr]

variable (v : UInt32)

theorem writeWord_unmapped (hn : ∀ w ∈ b.windows, ¬ w.Holds a) :
    b.writeWord a v = .ok (.error (.memoryViolation a)) := by
  simp [writeWord, ha, locate_none hfit hn]

theorem writeWord_blocked {i : Nat} {w : Window} (hf : FirstHolding b.windows a i w)
    (hb : b.Blocked w) : b.writeWord a v = .ok (.error (.clockDisabled w.name a v)) := by
  simp [writeWord, ha, locate_first hfit hf, blocked_of_blocked hfit hb]

theorem writeWord_stored {i : Nat} {w : Window} {d : Device} (hf : FirstHolding b.windows a i w)
    (hb : ¬ b.Blocked w) (hd : w.device.write (a - w.base) v = .ok d) :
    b.writeWord a v = .ok (.ok { b with windows := b.windows.set i { w with device := d } }) := by
  simp [writeWord, ha, locate_first hfit hf, blocked_of_not_blocked hb, hd]

theorem writeWord_refused {i : Nat} {w : Window} {e : Fault} (hf : FirstHolding b.windows a i w)
    (hb : ¬ b.Blocked w) (hd : w.device.write (a - w.base) v = .error e) :
    b.writeWord a v = .ok (.error (.memoryViolation a)) := by
  simp [writeWord, ha, locate_first hfit hf, blocked_of_not_blocked hb, hd]

omit ha in
/-- A direct read of a bus that can be searched always answers, by one of its four checks. -/
theorem readWord_ok : ∃ r, b.readWord a = .ok r := by
  by_cases ha : a % 4 = 0
  · rcases locate_fits b.windows a hfit with ⟨i, w, -, hf⟩ | ⟨-, hn⟩
    · cases hx : w.device.read (a - w.base) with
      | ok x => exact ⟨_, readWord_served hfit ha hf hx⟩
      | error e => exact ⟨_, readWord_refused hfit ha hf hx⟩
    · exact ⟨_, readWord_unmapped hfit ha hn⟩
  · exact ⟨_, readWord_unaligned b ha⟩

omit ha in
theorem writeWord_cases :
    (∃ (i : Nat) (w : Window) (d : Device),
      b.writeWord a v = .ok (.ok { b with windows := b.windows.set i { w with device := d } })) ∨
      ∃ f, b.writeWord a v = .ok (.error f) := by
  by_cases ha : a % 4 = 0
  · rcases locate_fits b.windows a hfit with ⟨i, w, -, hf⟩ | ⟨-, hn⟩
    · by_cases hb : b.Blocked w
      · exact .inr ⟨_, writeWord_blocked hfit ha v hf hb⟩
      · cases hd : w.device.write (a - w.base) v with
        | ok d => exact .inl ⟨i, w, d, writeWord_stored hfit ha v hf hb hd⟩
        | error e => exact .inr ⟨_, writeWord_refused hfit ha v hf hb hd⟩
    · exact .inr ⟨_, writeWord_unmapped hfit ha v hn⟩
  · exact .inr ⟨_, writeWord_unaligned b v ha⟩

/-! ### The register interface -/

variable [Observer ω] (hh : b.halted = none) (hc : b.cycle ≠ 0xFFFFFFFFFFFFFFFF)
include hh hc

omit ha in
theorem read_of_served {x : UInt32} (hr : b.readWord a = .ok (.ok x)) :
    (b.read a).1 = x ∧ (b.read a).2.halted = none ∧ (b.read a).2.windows = b.windows ∧
      (b.read a).2.faults = b.faults := by
  obtain ⟨n, hn⟩ := nameAt_ok hfit a
  simp [read, hh, readAt, tick_eq b hc, hr, hn, faults]

omit ha in
theorem read_of_fault {f : Fault} (hr : b.readWord a = .ok (.error f)) :
    (b.read a).1 = 0 ∧ (b.read a).2.halted = none ∧ (b.read a).2.windows = b.windows ∧
      (b.read a).2.faults = b.faults ++ [f] := by
  obtain ⟨n, hn⟩ := nameAt_ok hfit a
  simp [read, hh, readAt, tick_eq b hc, hr, hn, record, faults]

omit ha in
theorem write_of_stored {b' : Bus ω} (hw : b.writeWord a v = .ok (.ok b')) :
    (b.write a v).halted = b'.halted ∧ (b.write a v).windows = b'.windows ∧
      (b.write a v).faults = b'.faults := by
  obtain ⟨n, hn⟩ := nameAt_ok hfit a
  simp [write, hh, writeAt, tick_eq b hc, hw, hn, faults]

omit ha in
theorem write_of_fault {f : Fault} (hw : b.writeWord a v = .ok (.error f)) :
    (b.write a v).halted = none ∧ (b.write a v).windows = b.windows ∧
      (b.write a v).faults = b.faults ++ [f] := by
  obtain ⟨n, hn⟩ := nameAt_ok hfit a
  simp [write, hh, writeAt, tick_eq b hc, hw, hn, record, faults]

end Fits

/-! ### The frame and the fault of an access -/

/-- What a read at `a` that answered `v` and left the bus `b'` must have done: changed no model,
and answered the model's value with no fault, or zero with one fault, the first failing check
deciding which. -/
structure ReadSpec (b : Bus ω) (a v : UInt32) (b' : Bus ω) : Prop where
  running : b'.halted = none
  frame : b'.windows = b.windows
  served : ∀ i w x, a % 4 = 0 → FirstHolding b.windows a i w →
    w.device.read (a - w.base) = .ok x → v = x ∧ b'.faults = b.faults
  unaligned : a % 4 ≠ 0 → v = 0 ∧ b'.faults = b.faults ++ [.unaligned a]
  unmapped : a % 4 = 0 → (∀ w ∈ b.windows, ¬ w.Holds a) →
    v = 0 ∧ b'.faults = b.faults ++ [.memoryViolation a]
  refused : ∀ i w e, a % 4 = 0 → FirstHolding b.windows a i w →
    w.device.read (a - w.base) = .error e → v = 0 ∧ b'.faults = b.faults ++ [.memoryViolation a]

/-- What a write of `v` at `a` that left the bus `b'` must have done: replaced the model of the
first window holding `a` by that model's own write, with no fault, when the address is aligned,
held, not blocked by the gate and taken; otherwise changed no model and logged the fault of the
first failing check. -/
structure WriteSpec (b : Bus ω) (a v : UInt32) (b' : Bus ω) : Prop where
  running : b'.halted = none
  stored : ∀ i w d, a % 4 = 0 → FirstHolding b.windows a i w → ¬ b.Blocked w →
    w.device.write (a - w.base) v = .ok d →
    b'.windows = b.windows.set i { w with device := d } ∧ b'.faults = b.faults
  unaligned : a % 4 ≠ 0 → b'.windows = b.windows ∧ b'.faults = b.faults ++ [.unaligned a]
  unmapped : a % 4 = 0 → (∀ w ∈ b.windows, ¬ w.Holds a) →
    b'.windows = b.windows ∧ b'.faults = b.faults ++ [.memoryViolation a]
  blocked : ∀ i w, a % 4 = 0 → FirstHolding b.windows a i w → b.Blocked w →
    b'.windows = b.windows ∧ b'.faults = b.faults ++ [.clockDisabled w.name a v]
  refused : ∀ i w e, a % 4 = 0 → FirstHolding b.windows a i w → ¬ b.Blocked w →
    w.device.write (a - w.base) v = .error e →
    b'.windows = b.windows ∧ b'.faults = b.faults ++ [.memoryViolation a]

section Spec

variable [Observer ω] {b : Bus ω} (hfit : b.Fits) (hh : b.halted = none)
  (hc : b.cycle ≠ 0xFFFFFFFFFFFFFFFF)
include hfit hh hc

theorem read_spec (a : UInt32) : ReadSpec b a (b.read a).1 (b.read a).2 where
  running := by
    obtain ⟨r, hr⟩ := readWord_ok hfit (a := a)
    cases r with
    | ok x => exact (read_of_served hfit hh hc hr).2.1
    | error f => exact (read_of_fault hfit hh hc hr).2.1
  frame := by
    obtain ⟨r, hr⟩ := readWord_ok hfit (a := a)
    cases r with
    | ok x => exact (read_of_served hfit hh hc hr).2.2.1
    | error f => exact (read_of_fault hfit hh hc hr).2.2.1
  served _ _ _ ha hf hx :=
    have h := read_of_served hfit hh hc (readWord_served hfit ha hf hx)
    ⟨h.1, h.2.2.2⟩
  unaligned ha :=
    have h := read_of_fault hfit hh hc (readWord_unaligned b ha)
    ⟨h.1, h.2.2.2⟩
  unmapped ha hn :=
    have h := read_of_fault hfit hh hc (readWord_unmapped hfit ha hn)
    ⟨h.1, h.2.2.2⟩
  refused _ _ _ ha hf hx :=
    have h := read_of_fault hfit hh hc (readWord_refused hfit ha hf hx)
    ⟨h.1, h.2.2.2⟩

theorem write_spec (a v : UInt32) : WriteSpec b a v (b.write a v) where
  running := by
    rcases writeWord_cases hfit (a := a) v with ⟨i, w, d, hw⟩ | ⟨f, hw⟩
    · rw [(write_of_stored hfit v hh hc hw).1]
      exact hh
    · exact (write_of_fault hfit v hh hc hw).1
  stored _ _ _ ha hf hb hd :=
    have h := write_of_stored hfit v hh hc (writeWord_stored hfit ha v hf hb hd)
    ⟨h.2.1, h.2.2⟩
  unaligned ha :=
    have h := write_of_fault hfit v hh hc (writeWord_unaligned b v ha)
    ⟨h.2.1, h.2.2⟩
  unmapped ha hn :=
    have h := write_of_fault hfit v hh hc (writeWord_unmapped hfit ha v hn)
    ⟨h.2.1, h.2.2⟩
  blocked _ _ ha hf hb :=
    have h := write_of_fault hfit v hh hc (writeWord_blocked hfit ha v hf hb)
    ⟨h.2.1, h.2.2⟩
  refused _ _ _ ha hf hb hd :=
    have h := write_of_fault hfit v hh hc (writeWord_refused hfit ha v hf hb hd)
    ⟨h.2.1, h.2.2⟩

end Spec

/-- **Accesses change one model or log one fault.** On a running bus whose windows can be searched
and whose cycle counter can still tick, a read through the register interface changes no model
and answers the model's value or zero with one fault; a write changes exactly the model of the
first window holding its address, as that model's write does, or changes no model and logs
exactly one fault, the checks deciding in the order `unaligned`, no window, the clock gate, the
model's refusal. -/
theorem access_spec [Observer ω] (b : Bus ω) (r : Register) (v : UInt32)
    (hh : b.halted = none) (hc : b.cycle ≠ 0xFFFFFFFFFFFFFFFF) (hfit : b.Fits) :
    ReadSpec b r.addr (RegisterBus.read b r).1 (RegisterBus.read b r).2 ∧
      WriteSpec b r.addr v (RegisterBus.write b r v) :=
  ⟨read_spec hfit hh hc r.addr, write_spec hfit hh hc r.addr v⟩

/-- A Blue Pill's RCC block and port C, the port gated by its clock-enable bit. -/
def gatedPort : Bus Unit :=
  ((Bus.empty "bluepill" ()).map ⟨"rcc", 0x40021000, 0x400, none, [], .rcc (Rcc.init .f1)⟩).map
    ⟨"gpioc", 0x40011000, 0x400, some ⟨⟨0x40021018⟩, 0x10⟩, [], .gpio (Gpio.init .f1)⟩

theorem access_spec_gatedPort :
    gatedPort.halted = none ∧ gatedPort.cycle ≠ 0xFFFFFFFFFFFFFFFF ∧ gatedPort.Fits ∧
      (ReadSpec gatedPort 0x40011004 (RegisterBus.read gatedPort ⟨0x40011004⟩).1
          (RegisterBus.read gatedPort ⟨0x40011004⟩).2 ∧
        WriteSpec gatedPort 0x40011004 0x44244444
          (RegisterBus.write gatedPort ⟨0x40011004⟩ 0x44244444)) :=
  ⟨rfl, by decide, by decide,
    access_spec gatedPort ⟨0x40011004⟩ 0x44244444 rfl (by decide) (by decide)⟩

end Bus

end Heartbeat
