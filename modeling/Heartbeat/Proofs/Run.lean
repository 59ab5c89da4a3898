import Heartbeat.Session.Basic
import Heartbeat.Proofs.Profile
import Heartbeat.Proofs.Blinker
import Heartbeat.Profile.Builtin

/-!
# What a run counts

Every access through the register interface ticks the bus's cycle counter once and is reported
once to its observers, with at most one fault after it; a halted bus does neither. A run
configures with three read-modify-writes (six accesses), then each step makes one
read-modify-write and waits the delay count, which charges `nopCycles` cycles per iteration and
is reported as a delay. So after configuration and `T` steps, as long as nothing overflowed, the
counters read `6 + T·(2 + nopCycles·d)` cycles, `T·d` iterations, and `3 + T` reads and writes.

A run stops early only when faults stop it: it checks the fault log after configuration and after
each step, so the number of steps it makes is the first count after which the log is not empty,
or the whole toggle count.

* `Bus.Ticks`, `Metrics.Counted` : a bus some accesses later, metrics some reports later;
* `Session.Ran` : a session some steps later, with `step_ran` and `advance_ran`;
* `Session.run_eq` : the shape of a run;
* `Session.configure_fromProfile`, `Session.fromProfile_of_ok` : the session a profile gives,
  just configured, and when a profile gives one;
* `Session.run_counts` : the counters of a run.
-/

namespace Heartbeat

namespace Metrics

/-- `m'` has counted `r` more reads, `w` more writes and `i` more delay iterations than `m`. -/
structure Counted (m m' : Metrics) (r w i : Nat) : Prop where
  reads : m'.reads = m.reads + UInt64.ofNat r
  writes : m'.writes = m.writes + UInt64.ofNat w
  delay : m'.delayIterations = m.delayIterations + UInt64.ofNat i

theorem Counted.refl (m : Metrics) : Counted m m 0 0 0 := ⟨by simp, by simp, by simp⟩

theorem Counted.trans {m1 m2 m3 : Metrics} {r w i r' w' i' : Nat} (h1 : Counted m1 m2 r w i)
    (h2 : Counted m2 m3 r' w' i') : Counted m1 m3 (r + r') (w + w') (i + i') where
  reads := by rw [h2.reads, h1.reads, UInt64.ofNat_add, UInt64.add_assoc]
  writes := by rw [h2.writes, h1.writes, UInt64.ofNat_add, UInt64.add_assoc]
  delay := by rw [h2.delay, h1.delay, UInt64.ofNat_add, UInt64.add_assoc]

theorem counted_onAccess (m : Metrics) (n : Option String) (acc : Access) :
    Counted m (Observer.onAccess m n acc) (if acc.kind = .read then 1 else 0)
      (if acc.kind = .read then 0 else 1) 0 := by
  by_cases hk : acc.kind = .read <;> cases n <;>
    exact ⟨by simp [Observer.onAccess, hk], by simp [Observer.onAccess, hk],
      by simp [Observer.onAccess, hk]⟩

theorem counted_onFault (m : Metrics) (f : Fault) : Counted m (Observer.onFault m f) 0 0 0 :=
  ⟨by simp [Observer.onFault], by simp [Observer.onFault], by simp [Observer.onFault]⟩

theorem counted_onDelay (m : Metrics) (i c : UInt64) :
    Counted m (Observer.onDelay m i c) 0 0 i.toNat :=
  ⟨by simp [Observer.onDelay], by simp [Observer.onDelay], by simp [Observer.onDelay]⟩

end Metrics

@[simp] theorem onDelay_snd {α β : Type} [Observer α] [Observer β] (s : α × β) (i c : UInt64) :
    (Observer.onDelay s i c).2 = Observer.onDelay s.2 i c := rfl

theorem toNat_add_ofNat {c : UInt64} {k : Nat} (h : c.toNat + k < 2 ^ 64) :
    (c + UInt64.ofNat k).toNat = c.toNat + k := by
  rw [UInt64.toNat_add, UInt64.toNat_ofNat']
  omega

namespace Bus

variable {ω : Type} {b : Bus ω}

/-- `b'` is `b` some accesses later: it runs exactly when `b` ran with room for `k` more ticks,
and then its counter is `k` ticks further on. -/
structure Ticks (b b' : Bus ω) (k : Nat) : Prop where
  running : b'.halted = none ↔ b.halted = none ∧ b.cycle.toNat + k < 2 ^ 64
  cycle : b'.halted = none → b'.cycle = b.cycle + UInt64.ofNat k

theorem Ticks.trans {b1 b2 b3 : Bus ω} {k l : Nat} (h1 : Ticks b1 b2 k) (h2 : Ticks b2 b3 l) :
    Ticks b1 b3 (k + l) where
  running := by
    rw [h2.running]
    constructor
    · rintro ⟨hr2, hroom⟩
      obtain ⟨hr1, hk⟩ := h1.running.mp hr2
      have hc2 : b2.cycle.toNat = b1.cycle.toNat + k := by
        rw [h1.cycle hr2, toNat_add_ofNat hk]
      exact ⟨hr1, by omega⟩
    · rintro ⟨hr1, hroom⟩
      have hr2 := h1.running.mpr ⟨hr1, by omega⟩
      have hc2 : b2.cycle.toNat = b1.cycle.toNat + k := by
        rw [h1.cycle hr2, toNat_add_ofNat (by omega)]
      exact ⟨hr2, by omega⟩
  cycle h3 := by
    have hr2 := (h2.running.mp h3).1
    rw [h2.cycle h3, h1.cycle hr2, UInt64.ofNat_add, UInt64.add_assoc]

/-- An access that cannot tick halts the bus; a halted bus stays so. -/
theorem ticks_one {b' : Bus ω} (hstop : b.halted ≠ none → b' = b)
    (hmax : b.halted = none → b.cycle = 0xFFFFFFFFFFFFFFFF → b' = b.halt .cycle)
    (hrun : b.halted = none → b.cycle ≠ 0xFFFFFFFFFFFFFFFF →
      b'.halted = none ∧ b'.cycle = b.cycle + 1) :
    Ticks b b' 1 := by
  have hlt := b.cycle.toNat_lt
  have hmax_iff : b.cycle = 0xFFFFFFFFFFFFFFFF ↔ b.cycle.toNat + 1 = 2 ^ 64 := by
    rw [← UInt64.toNat_inj]
    simp
  refine ⟨?_, fun h' => ?_⟩
  · by_cases hh : b.halted = none
    · by_cases hc : b.cycle = 0xFFFFFFFFFFFFFFFF
      · rw [hmax hh hc]
        simp [halt, hmax_iff.mp hc]
      · have hroom := mt hmax_iff.mpr hc
        exact ⟨fun _ => ⟨hh, by omega⟩, fun _ => (hrun hh hc).1⟩
    · rw [hstop hh]
      simp [hh]
  · by_cases hh : b.halted = none
    · by_cases hc : b.cycle = 0xFFFFFFFFFFFFFFFF
      · rw [hmax hh hc] at h'
        simp [halt] at h'
      · rw [(hrun hh hc).2]
        rfl
    · rw [hstop hh] at h'
      exact absurd h' hh

variable [Observer ω]

/-- `w'` is `w` after one access of kind `k` was reported, and at most one fault after it. -/
def Reported (w w' : ω) (k : AccessKind) : Prop :=
  ∃ n acc, acc.kind = k ∧
    (w' = Observer.onAccess w n acc ∨ ∃ f, w' = Observer.onFault (Observer.onAccess w n acc) f)

theorem Reported.counted {ω : Type} [Observer ω] {w w' : ω × Metrics} {k : AccessKind}
    (h : Reported w w' k) :
    Metrics.Counted w.2 w'.2 (if k = .read then 1 else 0) (if k = .read then 0 else 1) 0 := by
  obtain ⟨n, acc, rfl, rfl | ⟨f, rfl⟩⟩ := h
  · exact Metrics.counted_onAccess w.2 n acc
  · exact (Metrics.counted_onAccess w.2 n acc).trans (Metrics.counted_onFault _ f)

theorem read_of_halted (h : b.halted ≠ none) (a : UInt32) : b.read a = (0, b) := by
  simp [read, Option.isSome_iff_ne_none.mpr h]

theorem write_of_halted (h : b.halted ≠ none) (a v : UInt32) : b.write a v = b := by
  simp [write, Option.isSome_iff_ne_none.mpr h]

theorem read_of_cycle_max (hh : b.halted = none) (hc : b.cycle = 0xFFFFFFFFFFFFFFFF)
    (a : UInt32) : b.read a = (0, b.halt .cycle) := by
  simp [read, hh, readAt, tick, hc]

theorem write_of_cycle_max (hh : b.halted = none) (hc : b.cycle = 0xFFFFFFFFFFFFFFFF)
    (a v : UInt32) : b.write a v = b.halt .cycle := by
  simp [write, hh, writeAt, tick, hc]

section Running

variable (hfit : b.Fits) (hh : b.halted = none) (hc : b.cycle ≠ 0xFFFFFFFFFFFFFFFF)
include hfit hh hc

theorem read_running (a : UInt32) :
    (b.read a).2.cycle = b.cycle + 1 ∧ Reported b.watch (b.read a).2.watch .read := by
  obtain ⟨r, hr⟩ := readWord_ok hfit (a := a)
  obtain ⟨n, hn⟩ := nameAt_ok hfit a
  cases r with
  | ok x =>
    simp only [read, hh, Option.isSome_none, Bool.false_eq_true, if_false, readAt, tick_eq b hc,
      hr, hn, ok_bind, ok_eq_pure]
    exact ⟨trivial, n, _, rfl, .inl rfl⟩
  | error f =>
    simp only [read, hh, Option.isSome_none, Bool.false_eq_true, if_false, readAt, tick_eq b hc,
      hr, hn, ok_bind, ok_eq_pure]
    exact ⟨rfl, n, _, rfl, .inr ⟨f, rfl⟩⟩

theorem write_running (a v : UInt32) :
    (b.write a v).cycle = b.cycle + 1 ∧ Reported b.watch (b.write a v).watch .write := by
  obtain ⟨n, hn⟩ := nameAt_ok hfit a
  rcases writeWord_cases hfit (a := a) v with ⟨i, w, d, hw⟩ | ⟨f, hw⟩
  · simp only [write, hh, Option.isSome_none, Bool.false_eq_true, if_false, writeAt, tick_eq b hc,
      hw, hn, ok_bind, ok_eq_pure]
    exact ⟨trivial, n, _, rfl, .inl rfl⟩
  · simp only [write, hh, Option.isSome_none, Bool.false_eq_true, if_false, writeAt, tick_eq b hc,
      hw, hn, ok_bind, ok_eq_pure]
    exact ⟨rfl, n, _, rfl, .inr ⟨f, rfl⟩⟩

end Running

theorem read_ticks (hfit : b.Fits) (a : UInt32) : Ticks b (b.read a).2 1 :=
  ticks_one (fun hh => by rw [read_of_halted hh])
    (fun hh hc => by rw [read_of_cycle_max hh hc])
    (fun hh hc => ⟨(read_spec hfit hh hc a).running, (read_running hfit hh hc a).1⟩)

theorem write_ticks (hfit : b.Fits) (a v : UInt32) : Ticks b (b.write a v) 1 :=
  ticks_one (fun hh => write_of_halted hh a v)
    (fun hh hc => write_of_cycle_max hh hc a v)
    (fun hh hc => ⟨(write_spec hfit hh hc a v).running, (write_running hfit hh hc a v).1⟩)

theorem read_fits (hfit : b.Fits) (a : UInt32) : (b.read a).2.Fits := by
  unfold Fits
  rw [(read_frame b a).1]
  exact hfit

theorem write_fits (hfit : b.Fits) (a v : UInt32) : (b.write a v).Fits :=
  (write_frame b a v).1.fits hfit

theorem modify_ticks (hfit : b.Fits) (a v : UInt32) : Ticks b ((b.read a).2.write a v) 2 :=
  (read_ticks hfit a).trans (write_ticks (read_fits hfit a) a v)

theorem modify_running (hfit : b.Fits) (a v : UInt32) (h : ((b.read a).2.write a v).halted = none) :
    b.halted = none ∧ b.cycle ≠ 0xFFFFFFFFFFFFFFFF ∧ (b.read a).2.halted = none ∧
      (b.read a).2.cycle ≠ 0xFFFFFFFFFFFFFFFF := by
  have hticks := modify_ticks hfit a v
  obtain ⟨hh, hroom⟩ := hticks.running.mp h
  have hc : b.cycle ≠ 0xFFFFFFFFFFFFFFFF := by
    intro hc
    rw [← UInt64.toNat_inj] at hc
    simp at hc
    omega
  have hr := read_ticks hfit a
  have hh1 : (b.read a).2.halted = none := hr.running.mpr ⟨hh, by omega⟩
  have hc1 : (b.read a).2.cycle ≠ 0xFFFFFFFFFFFFFFFF := by
    intro hc1
    have := hr.cycle hh1
    rw [hc1, ← UInt64.toNat_inj, UInt64.toNat_add] at this
    simp at this
    omega
  exact ⟨hh, hc, hh1, hc1⟩

theorem modify_counted {b : Bus (ω × Metrics)} (hfit : b.Fits) (a v : UInt32)
    (h : ((b.read a).2.write a v).halted = none) :
    Metrics.Counted b.watch.2 ((b.read a).2.write a v).watch.2 1 1 0 := by
  obtain ⟨hh, hc, hh1, hc1⟩ := modify_running hfit a v h
  have h1 := (read_running hfit hh hc a).2.counted
  have h2 := (write_running (read_fits hfit a) hh1 hc1 a v).2.counted
  simpa using h1.trans h2

end Bus

namespace Rig

variable {ω : Type}

theorem spin_eq (m : Rig ω) (count : UInt32) : Spin.spin m count = m.spinBy count.toNat := rfl

variable [Observer ω] (m : Rig ω) (r : Register)

/-! A rig's register accesses are its bus's. -/

@[simp] theorem read_fst : (RegisterBus.read m r).1 = (m.bus.read r.addr).1 := rfl

@[simp] theorem read_snd : (RegisterBus.read m r).2 = { m with bus := (m.bus.read r.addr).2 } := rfl

@[simp] theorem write_eq (v : UInt32) :
    RegisterBus.write m r v = { m with bus := m.bus.write r.addr v } := rfl

end Rig

theorem Profile.validate_bluepill : Profile.bluepill.validate = .ok () := by
  -- the kernel evaluates every check but the sort of the two windows
  have hp : Profile.checkPeripherals [] Profile.bluepill.peripherals =
      .ok [⟨0x40021000, 0x40021400, "rcc"⟩, ⟨0x40011000, 0x40011400, "gpioc"⟩] := by
    decide +kernel
  have hs : [(⟨0x40021000, 0x40021400, "rcc"⟩ : Span), ⟨0x40011000, 0x40011400, "gpioc"⟩].mergeSort
      Span.le = [⟨0x40011000, 0x40011400, "gpioc"⟩, ⟨0x40021000, 0x40021400, "rcc"⟩] := by
    simp [List.mergeSort, Span.le]
  simp only [Profile.validate, hp, ok_bind, hs]
  decide +kernel

namespace Session

variable {ω : Type}

theorem probe_ledLevel {s : Session ω} (hfit : s.bus.Fits) :
    ∃ level, s.probe ledLevel false = (level, s) := by
  obtain ⟨v, hv⟩ := Bus.peek_ok hfit s.target.output.register.addr
  cases v with
  | none => exact ⟨false, by simp [probe, ledLevel, hv]⟩
  | some x => exact ⟨x &&& s.target.output.mask != 0, by simp [probe, ledLevel, hv]⟩

/-- A session `t` steps after another, each a flip and a wait: the loop, the settings and the
nop cost unchanged, `t` levels more, `t` delays counted; while the bus runs, the cycle counter
`t·(2 + nopCycles·d)` further on; the bus does run when the counters had room for it, and
runs only if the iteration counter had. -/
structure Ran (s s' : Session ω) (t : Nat) : Prop where
  blinker : s'.blinker = s.blinker
  config : s'.config = s.config
  nopCycles : s'.rig.nopCycles = s.rig.nopCycles
  levels : s'.levelsRev.length = s.levelsRev.length + t
  fits : s'.bus.Fits
  iterations : s'.rig.iterations = s.rig.iterations + UInt64.ofNat (t * s.target.delayCount.toNat)
  halted : s'.bus.halted = none → s.bus.halted = none
  cycle : s'.bus.halted = none → s'.bus.cycle = s.bus.cycle +
    UInt64.ofNat (t * (2 + s.rig.nopCycles.toNat * s.target.delayCount.toNat))
  room : s.bus.halted = none →
    s.bus.cycle.toNat + t * (2 + s.rig.nopCycles.toNat * s.target.delayCount.toNat) < 2 ^ 64 →
    s.rig.iterations.toNat + t * s.target.delayCount.toNat < 2 ^ 64 → s'.bus.halted = none
  spent : s'.bus.halted = none → s.rig.iterations.toNat + t * s.target.delayCount.toNat < 2 ^ 64

theorem Ran.refl {s : Session ω} (hfit : s.bus.Fits) : Ran s s 0 where
  blinker := rfl
  config := rfl
  nopCycles := rfl
  levels := rfl
  fits := hfit
  iterations := by simp
  halted h := h
  cycle _ := by simp
  room h _ _ := h
  spent _ := by simpa using s.rig.iterations.toNat_lt

theorem Ran.trans {s1 s2 s3 : Session ω} {t u : Nat} (h1 : Ran s1 s2 t) (h2 : Ran s2 s3 u) :
    Ran s1 s3 (t + u) := by
  have htarget : s2.target = s1.target := by
    unfold target
    rw [h1.blinker]
  have hn := h1.nopCycles
  have hmul := Nat.add_mul t u (2 + s1.rig.nopCycles.toNat * s1.target.delayCount.toNat)
  have hmuld := Nat.add_mul t u s1.target.delayCount.toNat
  refine ⟨h2.blinker.trans h1.blinker, h2.config.trans h1.config, hn ▸ h2.nopCycles, ?_, h2.fits,
    ?_, fun h => h1.halted (h2.halted h), fun h => ?_, fun hh hc hi => ?_, fun h => ?_⟩
  · rw [h2.levels, h1.levels]
    omega
  · rw [h2.iterations, h1.iterations, htarget, hmuld, UInt64.ofNat_add, UInt64.add_assoc]
  · rw [h2.cycle h, h1.cycle (h2.halted h), htarget, hn, hmul, UInt64.ofNat_add, UInt64.add_assoc]
  · -- the first `t` steps have room, and leave room for the other `u`
    have hr2 := h1.room hh (by omega) (by omega)
    have hc2 : s2.bus.cycle.toNat =
        s1.bus.cycle.toNat + t * (2 + s1.rig.nopCycles.toNat * s1.target.delayCount.toNat) := by
      rw [h1.cycle hr2, toNat_add_ofNat (by omega)]
    have hi2 : s2.rig.iterations.toNat = s1.rig.iterations.toNat + t * s1.target.delayCount.toNat := by
      rw [h1.iterations, toNat_add_ofNat (by omega)]
    refine h2.room hr2 ?_ ?_
    · rw [hc2, htarget, hn]
      omega
    · rw [hi2, htarget]
      omega
  · -- a bus still running after all `t + u` steps ran after the first `t`
    have hs1 := h1.spent (h2.halted h)
    have hs2 := h2.spent h
    rw [h1.iterations, toNat_add_ofNat (by omega), htarget] at hs2
    omega

variable [Observer ω]

/-- The rig after a step's flip of the output bit and its wait, the wait reported to the bus. -/
def waited (s : Session ω) : Rig ω :=
  let m := Spin.spin (RegisterBus.toggleBits s.rig s.target.output.register s.target.output.mask)
    s.target.delayCount
  { m with bus := m.bus.notifyDelay (m.iterations - s.rig.iterations) }

/-- A step of a blinking session on a searchable bus: the flip, the wait and its report, and the
level recorded. -/
theorem step_eq (s : Session ω) (hb : s.blinker.phase = .blinking) (hfit : s.waited.bus.Fits) :
    ∃ level, s.step = (level, { s with rig := s.waited, levelsRev := level :: s.levelsRev }) := by
  obtain ⟨level, hl⟩ := probe_ledLevel (s := { s with rig := s.waited }) hfit
  have hstep : s.step = (({ s with rig := s.waited }.probe ledLevel false).1,
      { ({ s with rig := s.waited }.probe ledLevel false).2 with
        levelsRev := ({ s with rig := s.waited }.probe ledLevel false).1 ::
          ({ s with rig := s.waited }.probe ledLevel false).2.levelsRev }) := by
    simp only [step, Blinker.step_eq, Blinker.toggle_eq, Blinker.configure_blinking _ _ hb]
    rfl
  rw [hstep, hl]
  exact ⟨level, rfl⟩

/-- The bus after the flip of the output bit, before the wait. -/
def flipped (s : Session ω) : Bus ω :=
  (s.bus.read s.target.output.register.addr).2.write s.target.output.register.addr
    ((s.bus.read s.target.output.register.addr).1 ^^^ s.target.output.mask)

/-- The wait charges `nopCycles` cycles per iteration, halts the bus when the iteration counter
would pass its maximum, and is reported with its count. -/
theorem waited_bus (s : Session ω) :
    s.waited.bus = { s.flipped with
      cycle := s.flipped.cycle + UInt64.ofNat s.target.delayCount.toNat * s.rig.nopCycles
      halted := if s.rig.iterations.toNat + s.target.delayCount.toNat ≥ 2 ^ 64 then
        some .iterations else s.flipped.halted
      watch := Observer.onDelay s.flipped.watch (UInt64.ofNat s.target.delayCount.toNat)
        (s.flipped.cycle + UInt64.ofNat s.target.delayCount.toNat * s.rig.nopCycles) } := by
  have hiter : s.rig.iterations + UInt64.ofNat s.target.delayCount.toNat - s.rig.iterations =
      UInt64.ofNat s.target.delayCount.toNat := by
    grind
  simp only [waited, flipped, RegisterBus.toggleBits_eq, Rig.read_fst, Rig.read_snd,
    Rig.write_eq, Rig.spin_eq, Rig.spinBy, Bus.notifyDelay, hiter]
  rfl

theorem waited_iterations (s : Session ω) :
    s.waited.iterations = s.rig.iterations + UInt64.ofNat s.target.delayCount.toNat := rfl

theorem waited_fits {s : Session ω} (hfit : s.bus.Fits) : s.waited.bus.Fits := by
  unfold Bus.Fits
  rw [waited_bus]
  exact Bus.write_fits (Bus.read_fits hfit _) _ _

/-- A wait that leaves the bus running had room on the iteration counter, after a flip that left
it running. -/
theorem waited_running {s : Session ω} (h : s.waited.bus.halted = none) :
    s.rig.iterations.toNat + s.target.delayCount.toNat < 2 ^ 64 ∧ s.flipped.halted = none := by
  rw [waited_bus] at h
  split at h
  · cases h
  · exact ⟨by omega, h⟩

theorem step_ran {s : Session ω} (hb : s.blinker.phase = .blinking) (hfit : s.bus.Fits) :
    Ran s (s.step).2 1 := by
  obtain ⟨level, hstep⟩ := step_eq s hb (waited_fits hfit)
  have hflip : Bus.Ticks s.bus s.flipped 2 := Bus.modify_ticks hfit _ _
  rw [hstep]
  refine ⟨rfl, rfl, rfl, by simp, waited_fits hfit, by simp [waited_iterations],
    fun h => (hflip.running.mp (waited_running (s := s) h).2).1, fun h => ?_, ?_,
    fun h => by simpa using (waited_running (s := s) h).1⟩
  · change s.waited.bus.cycle = _
    rw [waited_bus, hflip.cycle (waited_running (s := s) h).2, UInt64.ofNat_mul, UInt64.ofNat_add,
      UInt64.ofNat_mul, UInt64.ofNat_toNat]
    grind
  · intro hh hc hi
    change s.waited.bus.halted = none
    rw [waited_bus]
    simp only [Nat.one_mul] at hc hi
    rw [if_neg (by omega)]
    exact hflip.running.mpr ⟨hh, by omega⟩

/-- The session after `t` steps. -/
def advance (s : Session ω) : Nat → Session ω
  | 0 => s
  | t + 1 => (s.step).2.advance t

theorem advance_ran {s : Session ω} (hb : s.blinker.phase = .blinking) (hfit : s.bus.Fits)
    (t : Nat) : Ran s (s.advance t) t := by
  induction t generalizing s with
  | zero => exact Ran.refl hfit
  | succ t ih =>
    have h1 := step_ran hb hfit
    have h2 := ih (h1.blinker ▸ hb) h1.fits
    show Ran s ((s.step).2.advance t) (t + 1)
    rw [Nat.add_comm t 1]
    exact h1.trans h2

theorem step_counted {s : Session (ω × Metrics)} (hb : s.blinker.phase = .blinking)
    (hfit : s.bus.Fits) (h : (s.step).2.bus.halted = none) :
    Metrics.Counted s.bus.watch.2 (s.step).2.bus.watch.2 1 1 s.target.delayCount.toNat := by
  obtain ⟨level, hstep⟩ := step_eq s hb (waited_fits hfit)
  rw [hstep] at h ⊢
  have hflip := Bus.modify_counted hfit s.target.output.register.addr
    ((s.bus.read s.target.output.register.addr).1 ^^^ s.target.output.mask)
    (waited_running (s := s) h).2
  have hdelay := Metrics.counted_onDelay s.flipped.watch.2
    (UInt64.ofNat s.target.delayCount.toNat)
    (s.flipped.cycle + UInt64.ofNat s.target.delayCount.toNat * s.rig.nopCycles)
  have hd : (UInt64.ofNat s.target.delayCount.toNat).toNat = s.target.delayCount.toNat := by
    rw [UInt64.toNat_ofNat', Nat.mod_eq_of_lt (by have := s.target.delayCount.toNat_lt; omega)]
  rw [hd] at hdelay
  change Metrics.Counted _ s.waited.bus.watch.2 _ _ _
  rw [waited_bus]
  simpa using hflip.trans hdelay

/-- While the bus runs, `t` steps count `t` reads, `t` writes and `t·d` delay iterations. -/
theorem advance_counted {s : Session (ω × Metrics)} (hb : s.blinker.phase = .blinking)
    (hfit : s.bus.Fits) (t : Nat) (h : (s.advance t).bus.halted = none) :
    Metrics.Counted s.bus.watch.2 (s.advance t).bus.watch.2 t t (t * s.target.delayCount.toNat) := by
  induction t generalizing s with
  | zero => simpa [advance] using Metrics.Counted.refl s.bus.watch.2
  | succ t ih =>
    have h1 := step_ran hb hfit
    have hrun : (s.step).2.bus.halted = none := (advance_ran (h1.blinker ▸ hb) h1.fits t).halted h
    have hc := step_counted hb hfit hrun
    have ht : (s.step).2.target = s.target := by
      unfold target
      rw [h1.blinker]
    have hrest := ih (h1.blinker ▸ hb) h1.fits h
    rw [ht] at hrest
    have hmul : (t + 1) * s.target.delayCount.toNat =
        s.target.delayCount.toNat + t * s.target.delayCount.toNat := by
      rw [Nat.add_mul, Nat.one_mul, Nat.add_comm]
    show Metrics.Counted _ ((s.step).2.advance t).bus.watch.2 _ _ _
    rw [hmul, Nat.add_comm t 1]
    exact hc.trans hrest

/-- Faults stop the run: the settings ask for it and the fault log is not empty. -/
def Stops (s : Session ω) : Prop := s.config.stopOnFault = true ∧ s.bus.faultLog ≠ []

instance (s : Session ω) : Decidable s.Stops := inferInstanceAs (Decidable (_ ∧ _))

omit [Observer ω] in
theorem stopCheck_iff (s : Session ω) :
    (s.config.stopOnFault && !s.bus.faultLog.isEmpty) = true ↔ s.Stops := by
  simp [Stops]

/-- The steps of a run after a check that did not stop it: the first `T` after which faults stop
it, or all `n`. -/
theorem steps_eq (n : Nat) (s : Session ω) (h0 : ¬ s.Stops) :
    ∃ T ≤ n, steps n s = (s.advance T).finish (if (s.advance T).Stops then .fault else .toggleLimit) ∧
      (∀ t < T, ¬ (s.advance t).Stops) ∧ (T < n → (s.advance T).Stops) := by
  induction n generalizing s with
  | zero => exact ⟨0, Nat.le_refl 0, by simp [steps, advance, h0], by simp, by simp⟩
  | succ n ih =>
    by_cases hs : (s.step).2.Stops
    · refine ⟨1, by omega, ?_, fun t ht => ?_, fun _ => hs⟩
      · have hc := (stopCheck_iff (s.step).2).mpr hs
        simp only [steps, hc, if_true, advance, hs]
      · obtain rfl : t = 0 := by omega
        exact h0
    · obtain ⟨T, hT, hrun, hbefore, hafter⟩ := ih (s.step).2 hs
      have hc : ¬ (((s.step).2.config.stopOnFault && !(s.step).2.bus.faultLog.isEmpty) = true) :=
        fun h => hs ((stopCheck_iff _).mp h)
      refine ⟨T + 1, by omega, ?_, fun t ht => ?_, fun hlt => hafter (by omega)⟩
      · simp only [steps, hc, advance]
        exact hrun
      · cases t with
        | zero => exact h0
        | succ t => exact hbefore t (by omega)

/-- **The shape of a run.** A run configures, then makes `T` steps and ends: `T` is the first count
of steps after which faults stop it, or the whole toggle count when they never do. -/
theorem run_eq (s : Session ω) (N : Nat) :
    ∃ T ≤ N, s.run N = (s.configure.advance T).finish
        (if (s.configure.advance T).Stops then .fault else .toggleLimit) ∧
      (∀ t < T, ¬ (s.configure.advance t).Stops) ∧ (T < N → (s.configure.advance T).Stops) := by
  by_cases h0 : s.configure.Stops
  · have hc := (stopCheck_iff s.configure).mpr h0
    refine ⟨0, Nat.zero_le N, ?_, fun t ht => absurd ht (Nat.not_lt_zero t), fun _ => h0⟩
    simp only [run, hc, if_true, advance, h0]
  · have hc : ¬ ((s.configure.config.stopOnFault && !s.configure.bus.faultLog.isEmpty) = true) :=
      fun h => h0 ((stopCheck_iff _).mp h)
    obtain ⟨T, hT, hrun, hbefore, hafter⟩ := steps_eq N s.configure h0
    refine ⟨T, hT, ?_, hbefore, hafter⟩
    simp only [run, hc]
    exact hrun

omit [Observer ω] in
theorem finish_eq {s : Session ω} (hfit : s.bus.Fits) (stop : StopReason) :
    ∃ pin, s.ledPin = .ok pin ∧ s.finish stop = (⟨s.bus.board, s.levelsRev.length.toUInt64,
      s.rig.iterations, s.bus.cycle, s.initialLevel, s.levels, s.bus.faults, stop, pin⟩, s) := by
  have hpin : ∃ pin, s.ledPin = .ok pin := by
    rcases locate_fits s.bus.windows s.target.output.register.addr hfit with
      ⟨i, w, hloc, -⟩ | ⟨hloc, -⟩
    · exact ⟨w.device.pinState s.target.output.pin, by simp [ledPin, Bus.pinState, hloc]⟩
    · exact ⟨none, by simp [ledPin, Bus.pinState, hloc]⟩
  obtain ⟨pin, hpin⟩ := hpin
  exact ⟨pin, hpin, by simp [finish, probe, summary, hpin]⟩

theorem modify_ticks {m : Rig ω} (hfit : m.bus.Fits) (r : Register) (v : UInt32) :
    Bus.Ticks m.bus (RegisterBus.write (RegisterBus.read m r).2 r v).bus 2 ∧
      (RegisterBus.write (RegisterBus.read m r).2 r v).bus.Fits := by
  simp only [Rig.read_snd, Rig.write_eq]
  exact ⟨Bus.modify_ticks hfit r.addr v, Bus.write_fits (Bus.read_fits hfit _) _ _⟩

theorem modify_counted {m : Rig (ω × Metrics)} (hfit : m.bus.Fits) (r : Register) (v : UInt32)
    (h : (RegisterBus.write (RegisterBus.read m r).2 r v).bus.halted = none) :
    Metrics.Counted m.bus.watch.2 (RegisterBus.write (RegisterBus.read m r).2 r v).bus.watch.2
      1 1 0 := by
  simp only [Rig.read_snd, Rig.write_eq] at h ⊢
  exact Bus.modify_counted hfit r.addr v h

theorem configure_eq (s : Session ω) (hu : s.blinker.phase = .uninitialized) :
    s.configure = { s with
      blinker := { s.blinker with phase := .blinking }
      rig := RegisterBus.setBits
        (RegisterBus.clearBits
          (RegisterBus.setBits s.rig s.target.clock.register s.target.clock.mask)
          s.target.mode.register s.target.mode.mask)
        s.target.mode.register s.target.mode.bits } := by
  simp [configure, Blinker.configure, hu, target]

theorem configure_ticks {s : Session ω} (hu : s.blinker.phase = .uninitialized)
    (hfit : s.bus.Fits) : Bus.Ticks s.bus s.configure.bus 6 ∧ s.configure.bus.Fits := by
  rw [configure_eq s hu]
  simp only [RegisterBus.setBits_eq, RegisterBus.clearBits_eq]
  obtain ⟨h1, hf1⟩ := modify_ticks hfit s.target.clock.register _
  obtain ⟨h2, hf2⟩ := modify_ticks hf1 s.target.mode.register _
  obtain ⟨h3, hf3⟩ := modify_ticks hf2 s.target.mode.register _
  exact ⟨(h1.trans h2).trans h3, hf3⟩

theorem configure_counted {s : Session (ω × Metrics)} (hu : s.blinker.phase = .uninitialized)
    (hfit : s.bus.Fits) (h : s.configure.bus.halted = none) :
    Metrics.Counted s.bus.watch.2 s.configure.bus.watch.2 3 3 0 := by
  rw [configure_eq s hu] at h ⊢
  simp only [RegisterBus.setBits_eq, RegisterBus.clearBits_eq] at h ⊢
  obtain ⟨h1, hf1⟩ := modify_ticks hfit s.target.clock.register _
  obtain ⟨h2, hf2⟩ := modify_ticks hf1 s.target.mode.register _
  obtain ⟨h3, -⟩ := modify_ticks hf2 s.target.mode.register _
  have c3 := modify_counted hf2 _ _ h
  have r2 := (h3.running.mp h).1
  have c2 := modify_counted hf1 _ _ r2
  have c1 := modify_counted hfit _ _ (h2.running.mp r2).1
  exact (c1.trans c2).trans c3

omit [Observer ω] in
theorem fromProfile_eq {p : Profile} {c : SimConfig} {watch : ω} {s : Session ω}
    (h : fromProfile p c watch = .ok s) :
    ∃ b t, Bus.fromProfile p watch = .ok b ∧ p.target? = some t ∧ s = withBus b t c := by
  unfold fromProfile at h
  cases hb : Bus.fromProfile p watch with
  | error e => simp [hb] at h
  | ok b =>
    cases ht : p.target? with
    | none => simp [hb, ht] at h
    | some t =>
      simp only [hb, ht, ok_bind, ok_eq_pure, Except.ok.injEq] at h
      exact ⟨b, t, rfl, rfl, h.symm⟩

omit [Observer ω] in
theorem fromProfile_of_ok {p : Profile} {watch : ω} {b : Bus ω} {t : BlinkTarget}
    (hb : Bus.fromProfile p watch = .ok b) (ht : p.target? = some t) (c : SimConfig) :
    fromProfile p c watch = .ok (withBus b t c) := by
  simp only [fromProfile, hb, ht, ok_bind, ok_eq_pure]

omit [Observer ω] in
theorem withBus_eq {b : Bus ω} (hfit : b.Fits) (t : BlinkTarget) (c : SimConfig) :
    ∃ level, withBus b t c = ⟨⟨{ b with gating := c.clockGating }, c.nopCycles.toUInt64, 0⟩,
      Blinker.start { t with delayCount := c.delayFor t.delayCount }, c, level, []⟩ := by
  obtain ⟨level, hl⟩ := probe_ledLevel
    (s := ⟨⟨{ b with gating := c.clockGating }, c.nopCycles.toUInt64, 0⟩,
      Blinker.start { t with delayCount := c.delayFor t.delayCount }, c, false, []⟩) hfit
  refine ⟨level, ?_⟩
  simp only [withBus, hl]

theorem target?_delayCount {p : Profile} {t : BlinkTarget} (h : p.target? = some t) :
    t.delayCount = p.delayCount := by
  simp only [Profile.target?, Option.bind_eq_bind, Option.bind_eq_some_iff, Option.pure_def,
    Option.some.injEq] at h
  obtain ⟨_, _, _, _, _, _, rfl⟩ := h
  rfl

/-- A session just configured from a profile: blinking on a searchable bus that runs six cycles
in, its settings and delay count in place, nothing waited, no level recorded. -/
structure Configured (s : Session ω) (c : SimConfig) (d : UInt32) : Prop where
  blinking : s.blinker.phase = .blinking
  fits : s.bus.Fits
  config : s.config = c
  levels : s.levelsRev = []
  iterations : s.rig.iterations = 0
  nopCycles : s.rig.nopCycles = c.nopCycles.toUInt64
  delay : s.target.delayCount = d
  running : s.bus.halted = none
  cycle : s.bus.cycle = 6

theorem configure_fresh {s : Session ω} (hu : s.blinker.phase = .uninitialized)
    (hfit : s.bus.Fits) (hh : s.bus.halted = none) (hc : s.bus.cycle = 0)
    (hi : s.rig.iterations = 0) (hn : s.rig.nopCycles = s.config.nopCycles.toUInt64)
    (hl : s.levelsRev = []) : Configured s.configure s.config s.target.delayCount := by
  obtain ⟨hticks, hfit'⟩ := configure_ticks hu hfit
  have hrun := hticks.running.mpr ⟨hh, by simp [hc]⟩
  refine ⟨?_, hfit', ?_, ?_, ?_, ?_, ?_, hrun, ?_⟩
  · simp [configure_eq s hu]
  · simp [configure_eq s hu]
  · simp [configure_eq s hu, hl]
  · simp [configure_eq s hu, RegisterBus.setBits_eq, RegisterBus.clearBits_eq, hi]
  · simp [configure_eq s hu, RegisterBus.setBits_eq, RegisterBus.clearBits_eq, hn]
  · simp [configure_eq s hu, target]
  · rw [hticks.cycle hrun, hc]
    rfl

theorem configure_fromProfile {p : Profile} {c : SimConfig} {watch : ω} {s : Session ω}
    (h : fromProfile p c watch = .ok s) : Configured s.configure c (c.delayFor p.delayCount) := by
  obtain ⟨b, t, hb, ht, rfl⟩ := fromProfile_eq h
  have hfit : b.Fits := Bus.fromProfile_fits hb
  obtain ⟨-, ws, -, rfl⟩ := Bus.fromProfile_ok hb
  obtain ⟨level, hs⟩ := withBus_eq hfit t c
  rw [hs, ← target?_delayCount ht]
  exact configure_fresh rfl hfit rfl rfl rfl rfl rfl

/-- While the bus runs, configuring a session from a profile counts three reads and three writes
on the observer it was given. -/
theorem configure_fromProfile_counted {p : Profile} {c : SimConfig} {watch : ω × Metrics}
    {s : Session (ω × Metrics)} (h : fromProfile p c watch = .ok s)
    (hrun : s.configure.bus.halted = none) :
    Metrics.Counted watch.2 s.configure.bus.watch.2 3 3 0 := by
  obtain ⟨b, t, hb, -, rfl⟩ := fromProfile_eq h
  have hfit : b.Fits := Bus.fromProfile_fits hb
  obtain ⟨-, ws, -, rfl⟩ := Bus.fromProfile_ok hb
  obtain ⟨level, hs⟩ := withBus_eq hfit t c
  rw [hs] at hrun ⊢
  exact configure_counted rfl hfit hrun

/-- A run of a configured session: `T` steps after the configuration, for the `T` of `run_eq`,
and its summary read off the session they leave. -/
theorem run_steps {s : Session ω} {c : SimConfig} {d : UInt32} (hc : Configured s.configure c d)
    (N : Nat) (hN : N < 2 ^ 64) :
    ∃ T ≤ N, (s.run N).2 = s.configure.advance T ∧ (s.run N).1.toggles.toNat = T ∧
      (s.run N).1.levels.length = T ∧
      (s.run N).1.stopReason = (if (s.configure.advance T).Stops then .fault else .toggleLimit) ∧
      (s.run N).1.faults = (s.configure.advance T).bus.faults ∧
      (s.run N).1.delayIterations = (s.configure.advance T).rig.iterations ∧
      (s.run N).1.cycles = (s.configure.advance T).bus.cycle ∧
      (∀ t < T, ¬ (s.configure.advance t).Stops) ∧ (T < N → (s.configure.advance T).Stops) := by
  obtain ⟨T, hT, hrun, hbefore, hafter⟩ := run_eq s N
  have hran := advance_ran hc.blinking hc.fits T
  obtain ⟨pin, -, hfin⟩ := finish_eq hran.fits
    (if (s.configure.advance T).Stops then .fault else .toggleLimit)
  have hlen : (s.configure.advance T).levelsRev.length = T := by
    rw [hran.levels, hc.levels]
    simp
  rw [hrun, hfin]
  refine ⟨T, hT, rfl, ?_, ?_, rfl, rfl, rfl, rfl, hbefore, hafter⟩
  · simp only [hlen]
    rw [Nat.toUInt64, UInt64.toNat_ofNat', Nat.mod_eq_of_lt (by omega)]
  · simp [levels, hlen]

theorem run_unstopped {s : Session ω} {c : SimConfig} {d : UInt32}
    (hc : Configured s.configure c d) {N : Nat} (hN : N < 2 ^ 64)
    (hgo : ∀ t, ¬ (s.configure.advance t).Stops) :
    (s.run N).1.toggles.toNat = N ∧ (s.run N).1.stopReason = .toggleLimit ∧
      (s.run N).1.faults = (s.configure.advance N).bus.faults := by
  obtain ⟨T, hT, -, htog, -, hstop, hfaults, -, -, -, hafter⟩ := run_steps hc N hN
  obtain rfl : T = N := by
    by_contra hne
    exact hgo T (hafter (by omega))
  exact ⟨htog, by rw [hstop, if_neg (hgo T)], hfaults⟩

/-- **What a run counts.** For a session a profile gives, a run of `N` toggles makes `T` steps,
`T` the number of levels it records: all `N` unless faults stop it, and then the first count of
steps after which the fault log is not empty. It stops for a fault exactly when faults stop it
and some were logged; it counts `T·d` busy-wait iterations, `d` the delay count in force. While
the counters have room (`T·d` and `6 + T·(2 + nopCycles·d)` below `2^64`), the bus runs on and
the cycle counter reads `6 + T·(2 + nopCycles·d)`; and whenever the bus runs on, the delay
iterations are `T·d` exactly and a metrics observer attached from the start counts `3 + T` reads,
`3 + T` writes and `T·d` delay iterations. -/
theorem run_counts (p : Profile) (c : SimConfig) (w : ω × Metrics) (s : Session (ω × Metrics))
    (hs : fromProfile p c w = .ok s) (N : UInt64) :
    let r := s.run N.toNat
    let T := r.1.toggles.toNat
    let d := (c.delayFor p.delayCount).toNat
    let n := c.nopCycles.toNat
    r.1.levels.length = T ∧ T ≤ N.toNat ∧
      (c.stopOnFault = false → T = N.toNat) ∧
      (c.stopOnFault = true → (∀ t < T, (s.configure.advance t).bus.faults = []) ∧
        (T < N.toNat → (s.configure.advance T).bus.faults ≠ [])) ∧
      (r.1.stopReason = .fault ↔ c.stopOnFault = true ∧ r.1.faults ≠ []) ∧
      r.1.delayIterations = UInt64.ofNat (T * d) ∧
      (T * d < 2 ^ 64 → 6 + T * (2 + n * d) < 2 ^ 64 →
        r.2.bus.halted = none ∧ r.1.cycles.toNat = 6 + T * (2 + n * d)) ∧
      (r.2.bus.halted = none → r.1.delayIterations.toNat = T * d ∧
        Metrics.Counted w.2 r.2.bus.watch.2 (3 + T) (3 + T) (T * d)) := by
  intro r T d n
  have hc := configure_fromProfile hs
  obtain ⟨T', hT', hstate, htog, hlev, hstop, hfaults, hdelay, hcyc, hbefore, hafter⟩ :=
    run_steps hc N.toNat N.toNat_lt
  obtain rfl : T = T' := htog
  have hconfig : ∀ t, (s.configure.advance t).config = c := fun t =>
    (advance_ran hc.blinking hc.fits t).config.trans hc.config
  have hran := advance_ran hc.blinking hc.fits T
  have hd : s.configure.target.delayCount.toNat = d := by rw [hc.delay]
  have hn : s.configure.rig.nopCycles.toNat = n := by rw [hc.nopCycles, UInt32.toNat_toUInt64]
  refine ⟨hlev, hT', fun hoff => ?_, fun hon => ⟨fun t ht => ?_, fun hlt => ?_⟩, ?_, ?_,
    fun hroomd hroomc => ?_, fun hrun => ?_⟩
  · -- without stops at faults the run never ends early
    by_contra hne
    have := (hafter (by omega)).1
    rw [hconfig, hoff] at this
    cases this
  · have hnot := hbefore t ht
    simp only [Stops, hconfig, hon, true_and, not_not] at hnot
    simp [Bus.faults, hnot]
  · have hstops := hafter hlt
    simpa [Bus.faults] using hstops.2
  · -- the run stops for a fault exactly when the session it ends in is stopped by faults
    have hkey : (s.configure.advance T).Stops ↔
        c.stopOnFault = true ∧ (s.configure.advance T).bus.faults ≠ [] := by
      simp [Stops, hconfig, Bus.faults]
    rw [hstop, hfaults, ← hkey]
    by_cases hst : (s.configure.advance T).Stops <;> simp [hst]
  · rw [hdelay, hran.iterations, hc.iterations, hd]
    simp
  · have hroom := hran.room hc.running (by rw [hc.cycle, hn, hd]; simpa using hroomc)
      (by rw [hc.iterations, hd]; simpa using hroomd)
    refine ⟨hstate ▸ hroom, ?_⟩
    rw [hcyc, hran.cycle hroom, hc.cycle, hn, hd]
    exact toNat_add_ofNat (by simpa using hroomc)
  · replace hrun : (s.configure.advance T).bus.halted = none := hstate ▸ hrun
    have hspent : T * d < 2 ^ 64 := by simpa [hc.iterations, hd] using hran.spent hrun
    refine ⟨?_, ?_⟩
    · rw [hdelay, hran.iterations, hc.iterations, hd, UInt64.zero_add, UInt64.toNat_ofNat',
        Nat.mod_eq_of_lt hspent]
    · have hconf := configure_fromProfile_counted hs (hran.halted hrun)
      have hsteps := advance_counted hc.blinking hc.fits T hrun
      rw [hd] at hsteps
      rw [hstate]
      simpa using hconf.trans hsteps

omit [Observer ω] in
/-- The Blue Pill's profile is valid, its windows build and its heartbeat exists: it gives a
session for any settings and observer. -/
theorem fromProfile_bluepill (c : SimConfig) (watch : ω) :
    ∃ s, fromProfile Profile.bluepill c watch = .ok s := by
  obtain ⟨ws, hw⟩ : ∃ ws, Profile.bluepill.peripherals.mapM Bus.windowOf = .ok ws := by
    cases h : Profile.bluepill.peripherals.mapM Bus.windowOf with
    | ok ws => exact ⟨ws, rfl⟩
    | error e =>
      have : (Profile.bluepill.peripherals.mapM Bus.windowOf).toBool = true := by decide +kernel
      simp [h, Except.toBool] at this
  obtain ⟨t, ht⟩ : ∃ t, Profile.bluepill.target? = some t :=
    Option.isSome_iff_exists.mp (by decide +kernel)
  exact ⟨_, fromProfile_of_ok (Bus.fromProfile_of_ok watch Profile.validate_bluepill hw) ht c⟩

/-- A Blue Pill session with the default settings and a metrics observer, run for three
toggles. -/
theorem run_counts_bluepill :
    ∃ s, fromProfile Profile.bluepill SimConfig.default ((), Metrics.empty) = .ok s ∧
      let r := s.run (3 : UInt64).toNat
      let T := r.1.toggles.toNat
      let d := (SimConfig.default.delayFor Profile.bluepill.delayCount).toNat
      let n := SimConfig.default.nopCycles.toNat
      r.1.levels.length = T ∧ T ≤ (3 : UInt64).toNat ∧
        (SimConfig.default.stopOnFault = false → T = (3 : UInt64).toNat) ∧
        (SimConfig.default.stopOnFault = true →
          (∀ t < T, (s.configure.advance t).bus.faults = []) ∧
          (T < (3 : UInt64).toNat → (s.configure.advance T).bus.faults ≠ [])) ∧
        (r.1.stopReason = .fault ↔ SimConfig.default.stopOnFault = true ∧ r.1.faults ≠ []) ∧
        r.1.delayIterations = UInt64.ofNat (T * d) ∧
        (T * d < 2 ^ 64 → 6 + T * (2 + n * d) < 2 ^ 64 →
          r.2.bus.halted = none ∧ r.1.cycles.toNat = 6 + T * (2 + n * d)) ∧
        (r.2.bus.halted = none → r.1.delayIterations.toNat = T * d ∧
          Metrics.Counted Metrics.empty r.2.bus.watch.2 (3 + T) (3 + T) (T * d)) := by
  obtain ⟨s, hs⟩ := fromProfile_bluepill SimConfig.default ((), Metrics.empty)
  exact ⟨s, hs, run_counts Profile.bluepill SimConfig.default ((), Metrics.empty) s hs 3⟩

end Session

end Heartbeat
