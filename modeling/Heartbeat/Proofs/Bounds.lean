import Heartbeat.Bus.Snapshot
import Heartbeat.Proofs.Echo
import Heartbeat.Proofs.PinMode
import Heartbeat.Proofs.Run
import Heartbeat.Proofs.Validity

/-!
# A valid profile overflows nothing

Validation's range checks are made on the profile's fields, while the shifts they guard are made
in the heartbeat's registers and the additions they guard in the bus's windows. A valid profile
gives a heartbeat whose masks are exactly the bits it names: the clock and output masks are one
bit each, the mode field lies inside the word, and the mode value sits in it whole
(`Profile.target_exact`). Every window of its bus ends by `2^32` (`Bus.fromProfile_within`), so
every search of the windows completes, and with it every snapshot and summary. A session on the
bus starts running, and a run whose cycle and iteration counters have room ends running
(`Session.run_completes`).

* `shiftLeft_toNat`, `fieldOnes_toNat_of_le`, `ModeField.mask_toNat`, `ModeField.bits_toNat`,
  `ModeField.bits_and_not_mask` : a field's mask and bits as numbers;
* `BlinkTarget.Exact` : a heartbeat that realizes an LED spec with no bit lost;
* `Profile.target_exact`, `Bus.fromProfile_within`, `Bus.snapshot_ok`;
* `Session.fromProfile_no_abort`, `Session.run_completes`;
* `Profile.no_overflow_of_validate` : all of it for a profile validation accepts.
-/

namespace Heartbeat

/-! ### Masks and fields as numbers -/

theorem shiftLeft_toNat (x : UInt32) {o : UInt8} (ho : o.toNat < 32)
    (h : x.toNat * 2 ^ o.toNat < 2 ^ 32) : (x <<< o.toUInt32).toNat = x.toNat * 2 ^ o.toNat := by
  rw [UInt32.toNat_shiftLeft, UInt8.toNat_toUInt32, Nat.mod_eq_of_lt ho, Nat.shiftLeft_eq,
    Nat.mod_eq_of_lt h]

theorem mul_two_pow_lt {x w o : Nat} (hx : x < 2 ^ w) (h : o + w ≤ 32) : x * 2 ^ o < 2 ^ 32 :=
  calc x * 2 ^ o < 2 ^ w * 2 ^ o := Nat.mul_lt_mul_of_pos_right hx (Nat.two_pow_pos o)
    _ = 2 ^ (w + o) := (Nat.pow_add 2 w o).symm
    _ ≤ 2 ^ 32 := Nat.pow_le_pow_right (by decide) (by omega)

theorem fieldOnes_toNat_of_le {w : UInt8} (hw : w.toNat ≤ 32) :
    (fieldOnes w).toNat = 2 ^ w.toNat - 1 := by
  rcases Nat.lt_or_eq_of_le hw with hlt | heq
  · exact fieldOnes_toNat hlt
  · have hge : w ≥ 32 := by
      rw [ge_iff_le, UInt8.le_iff_toNat_le, heq]
      decide
    rw [fieldOnes, if_pos hge, heq]
    rfl

namespace ModeField

variable (f : ModeField)

theorem bits_and_not_mask : f.bits &&& ~~~f.mask = 0 := by
  rw [bits, UInt32.and_assoc, UInt32.and_not_self, UInt32.and_zero]

variable (hf : f.offset.toNat + f.width.toNat ≤ 32)
include hf

theorem mask_toNat : f.mask.toNat = (2 ^ f.width.toNat - 1) * 2 ^ f.offset.toNat := by
  have hones := fieldOnes_toNat_of_le (w := f.width) (by omega)
  have hlt : 2 ^ f.width.toNat - 1 < 2 ^ f.width.toNat := Nat.sub_lt (Nat.two_pow_pos _) Nat.one_pos
  rw [mask, shiftLeft_toNat _ f.offset_lt (by rw [hones]; exact mul_two_pow_lt hlt hf), hones]

theorem bits_toNat (hv : f.mode.toNat < 2 ^ f.width.toNat) :
    f.bits.toNat = f.mode.toNat * 2 ^ f.offset.toNat := by
  have hcut : f.mode &&& fieldOnes f.width = f.mode := by
    apply UInt32.toNat_inj.mp
    rw [UInt32.toNat_and, fieldOnes_toNat_of_le (by omega), Nat.and_two_pow_sub_one_eq_mod,
      Nat.mod_eq_of_lt hv]
  rw [bits, mask, ← UInt32.shiftLeft_and, hcut,
    shiftLeft_toNat _ f.offset_lt (mul_two_pow_lt hv hf)]

end ModeField

/-! ### The heartbeat of a valid profile -/

/-- A heartbeat that realizes an LED spec with no bit lost: its registers are the spec's, its
clock and output masks are the one bit each names, and its mode field lies inside the word with
the whole mode value in it. -/
structure BlinkTarget.Exact (t : BlinkTarget) (led : LedSpec) : Prop where
  registers : t.clock.register.addr = led.clock.register ∧
    t.mode.register.addr = led.mode.register ∧ t.output.register.addr = led.output.register
  clockBit : led.clock.bit.toNat < 32
  clockMask : t.clock.mask.toNat = 2 ^ led.clock.bit.toNat
  pin : t.output.pin = led.output.pin
  outputMask : t.output.mask.toNat = 2 ^ led.output.pin.toNat
  offset : t.mode.offset = led.mode.offset
  width : t.mode.width = led.mode.width
  inside : t.mode.offset.toNat + t.mode.width.toNat ≤ 32
  modeMask : t.mode.mask.toNat = (2 ^ t.mode.width.toNat - 1) * 2 ^ t.mode.offset.toNat
  modeBits : t.mode.bits.toNat = led.mode.value.toNat * 2 ^ t.mode.offset.toNat
  bitsInside : t.mode.bits &&& ~~~t.mode.mask = 0

namespace Profile

/-- The heartbeat of a valid profile exists and realizes its LED spec exactly. -/
theorem target_exact {p : Profile} (hv : p.Valid) : ∃ t, p.target? = some t ∧ t.Exact p.led := by
  have hb := hv.clockBit
  obtain ⟨hw1, hf⟩ := hv.modeField
  have hp := hv.pin
  -- a mode value checked against a field of the whole word fits it anyway
  have hm : p.led.mode.value.toNat < 2 ^ p.led.mode.width.toNat := by
    rcases hv.modeValue with h32 | hlt
    · rw [h32]
      exact p.led.mode.value.toNat_lt
    · exact hlt
  let mode : ModeField :=
    ⟨⟨p.led.mode.register⟩, p.led.mode.offset, p.led.mode.width, p.led.mode.value, by omega⟩
  refine ⟨⟨⟨⟨p.led.clock.register⟩, 1 <<< p.led.clock.bit.toUInt32⟩, mode,
    ⟨⟨p.led.output.register⟩, p.led.output.pin, hp⟩, p.delayCount⟩, ?_, ?_⟩
  · simp [target?, ClockGate.bit?, ModeField.mk?, OutputBit.mk?, UInt8.lt_iff_toNat_lt, hb, hp,
      show p.led.mode.offset.toNat < 32 by omega, mode]
  · exact ⟨⟨rfl, rfl, rfl⟩, hb, toNat_mask hb, rfl, toNat_mask hp, rfl, rfl, hf,
      mode.mask_toNat hf, mode.bits_toNat hf hm, mode.bits_and_not_mask⟩

end Profile

/-! ### The bus of a valid profile -/

theorem mapM_ok {ε α β : Type} {f : α → Except ε β} :
    ∀ {l : List α}, (∀ x ∈ l, ∃ y, f x = .ok y) → ∃ ys, l.mapM f = .ok ys
  | [], _ => ⟨[], rfl⟩
  | x :: l, h => by
    obtain ⟨y, hy⟩ := h x List.mem_cons_self
    obtain ⟨ys, hys⟩ := mapM_ok fun z hz => h z (List.mem_cons_of_mem x hz)
    exact ⟨y :: ys, by simp [List.mapM_cons, hy, hys]⟩

theorem mapM_error {ε α β : Type} {f : α → Except ε β} {e : ε} :
    ∀ {l : List α}, l.mapM f = .error e → ∃ x ∈ l, f x = .error e
  | [], h => by simp at h
  | x :: l, h => by
    rw [List.mapM_cons] at h
    cases hx : f x with
    | error e' =>
      simp only [hx, error_bind, Except.error.injEq] at h
      exact ⟨x, List.mem_cons_self, h ▸ hx⟩
    | ok y =>
      cases hl : l.mapM f with
      | error e' =>
        simp only [hx, hl, ok_bind, error_bind, Except.error.injEq] at h
        obtain ⟨z, hz, hfz⟩ := mapM_error (h ▸ hl)
        exact ⟨z, List.mem_cons_of_mem x hz, hfz⟩
      | ok ys => simp [hx, hl] at h

namespace Bus

variable {ω : Type}

/-- A peripheral whose size reads builds its window, or fails for its model or a reset value;
never for its profile. -/
theorem windowOf_ne_profile {q : PeripheralSpec} {s : UInt64} (hs : q.windowSize = .ok s)
    (e : ProfileError) : windowOf q ≠ .error (.profile e) := by
  unfold windowOf
  cases hd : Device.build q.kind q.layout s with
  | error e' => simp [hs, hd]
  | ok d =>
    rcases hp : presetAll d q.resetValues.entries with ⟨d', _ | f⟩ <;> simp [hs, hd, hp]

theorem fromProfile_ne_profile {p : Profile} (hv : p.Valid) (watch : ω) (e : ProfileError) :
    fromProfile p watch ≠ .error (.profile e) := by
  intro h
  cases hw : p.peripherals.mapM windowOf with
  | ok ws =>
    simp [fromProfile, (Profile.validate_ok_iff p).mpr hv, hw] at h
  | error e' =>
    simp only [fromProfile, (Profile.validate_ok_iff p).mpr hv, hw, error_bind,
      Except.error.injEq] at h
    subst h
    obtain ⟨q, hq, hqe⟩ := mapM_error hw
    obtain ⟨s, hs, -⟩ := hv.sizes q hq
    exact windowOf_ne_profile hs e hqe

/-- Every window of a profile's bus ends by `2^32`: a peripheral's as validation checked it, a
memory cell four bytes after an aligned LED register. -/
theorem fromProfile_within {p : Profile} {watch : ω} {b : Bus ω} (h : fromProfile p watch = .ok b) :
    ∀ w ∈ b.windows, w.base.toNat + w.size.toNat ≤ 2 ^ 32 := by
  obtain ⟨hv, ws, hws, rfl⟩ := fromProfile_ok h
  intro w hw
  split at hw
  · obtain ⟨r, hr, rfl⟩ := List.mem_map.mp hw
    have hled : r ∈ p.led.registers := by
      simpa [ledRegisters, LedSpec.registers] using List.mem_eraseDups.mp hr
    have hal := ((Profile.validate_ok_iff p).mp hv).aligned r hled
    have hlt := r.toNat_lt
    simp only [memoryCell, UInt64.reduceToNat]
    omega
  · have := (Profile.validate_apart hv hws).2 w hw
    simpa [Window.span] using this

variable {b : Bus ω} (hfit : b.Fits)
include hfit

theorem gateOpen_ok (g : ClockGate) : ∃ x, b.gateOpen g = .ok x := by
  obtain ⟨v, hv⟩ := peek_ok hfit g.register.addr
  cases v with
  | none => exact ⟨false, by simp [gateOpen, hv]⟩
  | some x => exact ⟨x &&& g.mask == g.mask, by simp [gateOpen, hv]⟩

theorem snapshot_ok : ∃ shot, b.snapshot = .ok shot := by
  have hw : ∀ w ∈ b.windows, ∃ ws, b.windowSnapshot w = .ok ws := by
    intro w _
    cases hg : w.gate with
    | none => simp [windowSnapshot, hg]
    | some g =>
      obtain ⟨x, hx⟩ := gateOpen_ok hfit g
      simp [windowSnapshot, hg, hx]
  obtain ⟨shots, hs⟩ := mapM_ok (f := fun w => do pure (w.name, ← b.windowSnapshot w))
    (l := b.windows) fun w hw' => by
      obtain ⟨ws, hws⟩ := hw w hw'
      exact ⟨(w.name, ws), by simp [hws]⟩
  unfold snapshot
  rw [hs]
  exact ⟨_, rfl⟩

end Bus

/-! ### Sessions on a valid profile -/

namespace Session

variable {ω : Type}

theorem summary_ok {s : Session ω} (hfit : s.bus.Fits) (stop : StopReason) :
    ∃ sum, s.summary stop = .ok sum := by
  obtain ⟨pin, hpin, -⟩ := finish_eq hfit stop
  simp [summary, hpin]

theorem fromProfile_no_abort {p : Profile} (hv : p.Valid) (c : SimConfig) (watch : ω)
    (e : ProfileError) : fromProfile p c watch ≠ .error (.profile e) := by
  obtain ⟨t, ht, -⟩ := Profile.target_exact hv
  intro h
  cases hb : Bus.fromProfile p watch with
  | ok b => simp [fromProfile, hb, ht] at h
  | error e' =>
    simp only [fromProfile, hb, error_bind, Except.error.injEq] at h
    subst h
    exact Bus.fromProfile_ne_profile hv watch e hb

theorem fromProfile_running {p : Profile} {c : SimConfig} {watch : ω} {s : Session ω}
    (h : fromProfile p c watch = .ok s) : s.bus.halted = none := by
  obtain ⟨b, t, hb, -, rfl⟩ := fromProfile_eq h
  obtain ⟨-, ws, -, rfl⟩ := Bus.fromProfile_ok hb
  obtain ⟨level, hs⟩ := withBus_eq (Bus.fromProfile_fits hb) t c
  rw [hs]
  rfl

variable [Observer ω]

/-- **A run with room completes.** For a session a profile gives, a run whose `T` steps leave
room in the iteration counter (`T·d`) and in the cycle counter (`6 + T·(2 + nopCycles·d)`) ends
with its bus running, and that bus has its snapshot and the session its summary. -/
theorem run_completes {p : Profile} {c : SimConfig} {watch : ω} {s : Session ω}
    (hs : fromProfile p c watch = .ok s) (N : UInt64) :
    let r := s.run N.toNat
    let T := r.1.toggles.toNat
    let d := (c.delayFor p.delayCount).toNat
    let n := c.nopCycles.toNat
    T * d < 2 ^ 64 → 6 + T * (2 + n * d) < 2 ^ 64 →
      r.2.bus.halted = none ∧ (∃ shot, r.2.bus.snapshot = .ok shot) ∧
        ∀ stop, ∃ sum, r.2.summary stop = .ok sum := by
  intro r T d n hroomd hroomc
  have hc := configure_fromProfile hs
  obtain ⟨T', -, hstate, htog, -⟩ := run_steps hc N.toNat N.toNat_lt
  obtain rfl : T = T' := htog
  have hran := advance_ran hc.blinking hc.fits T
  have hd : s.configure.target.delayCount.toNat = d := by rw [hc.delay]
  have hn : s.configure.rig.nopCycles.toNat = n := by rw [hc.nopCycles, UInt32.toNat_toUInt64]
  have hrun : (s.configure.advance T).bus.halted = none :=
    hran.room hc.running (by rw [hc.cycle, hn, hd]; simpa using hroomc)
      (by rw [hc.iterations, hd]; simpa using hroomd)
  have hr : r.2 = s.configure.advance T := hstate
  rw [hr]
  exact ⟨hrun, Bus.snapshot_ok hran.fits, summary_ok hran.fits⟩

end Session

namespace Profile

/-- **A profile validation accepts overflows nothing.** Its heartbeat exists and realizes the
LED spec with no bit lost; every window of its bus ends by `2^32`; a session on it fails only for
a model or a reset value, starts running, and a run of it whose counters have room ends running
with its snapshot and summary. -/
theorem no_overflow_of_validate (p : Profile) (hv : p.validate = .ok ()) :
    (∃ t, p.target? = some t ∧ t.Exact p.led) ∧
    (∀ {ω : Type} (watch : ω) (b : Bus ω), Bus.fromProfile p watch = .ok b →
      ∀ w ∈ b.windows, w.base.toNat + w.size.toNat ≤ 2 ^ 32) ∧
    ∀ {ω : Type} [Observer ω] (c : SimConfig) (watch : ω),
      (∀ e, Session.fromProfile p c watch ≠ .error (.profile e)) ∧
      ∀ s, Session.fromProfile p c watch = .ok s → s.bus.halted = none ∧
        ∀ N : UInt64,
          let r := s.run N.toNat
          let T := r.1.toggles.toNat
          let d := (c.delayFor p.delayCount).toNat
          let n := c.nopCycles.toNat
          T * d < 2 ^ 64 → 6 + T * (2 + n * d) < 2 ^ 64 →
            r.2.bus.halted = none ∧ (∃ shot, r.2.bus.snapshot = .ok shot) ∧
              ∀ stop, ∃ sum, r.2.summary stop = .ok sum := by
  have hvalid := (validate_ok_iff p).mp hv
  refine ⟨target_exact hvalid, fun _ b hb => Bus.fromProfile_within hb, fun c watch => ?_⟩
  exact ⟨Session.fromProfile_no_abort hvalid c watch,
    fun _ hs => ⟨Session.fromProfile_running hs, Session.run_completes hs⟩⟩

/-- The Blue Pill's profile passes validation, and so overflows nothing. -/
theorem no_overflow_bluepill :
    bluepill.validate = .ok () ∧
    (∃ t, bluepill.target? = some t ∧ t.Exact bluepill.led) ∧
    (∀ {ω : Type} (watch : ω) (b : Bus ω), Bus.fromProfile bluepill watch = .ok b →
      ∀ w ∈ b.windows, w.base.toNat + w.size.toNat ≤ 2 ^ 32) ∧
    ∀ {ω : Type} [Observer ω] (c : SimConfig) (watch : ω),
      (∀ e, Session.fromProfile bluepill c watch ≠ .error (.profile e)) ∧
      ∀ s, Session.fromProfile bluepill c watch = .ok s → s.bus.halted = none ∧
        ∀ N : UInt64,
          let r := s.run N.toNat
          let T := r.1.toggles.toNat
          let d := (c.delayFor bluepill.delayCount).toNat
          let n := c.nopCycles.toNat
          T * d < 2 ^ 64 → 6 + T * (2 + n * d) < 2 ^ 64 →
            r.2.bus.halted = none ∧ (∃ shot, r.2.bus.snapshot = .ok shot) ∧
              ∀ stop, ∃ sum, r.2.summary stop = .ok sum :=
  ⟨validate_bluepill, no_overflow_of_validate bluepill validate_bluepill⟩

end Profile

end Heartbeat
