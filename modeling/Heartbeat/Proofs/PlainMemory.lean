import Heartbeat.Proofs.Bounds
import Heartbeat.Proofs.Levels

/-!
# A board without peripherals blinks in plain memory

A profile that declares no peripherals still gets a bus: one 4-byte plain-memory cell, ungated
and zeroed, at each distinct register the LED names. The blink loop then only ever touches those
cells, and a cell serves every word written to it, so nothing faults and no pin is reported. The
levels a run records alternate from the level configuration leaves, which is on only when the
output register shares its cell with the clock or the mode register.

* `Bus.ledRegisters_nodup`, `Bus.mem_ledRegisters`, `Bus.cells_firstHolding` : the cells, one per
  distinct register, each the first window to hold its own register;
* `Bus.Plain b k` : each LED register of `k` is served by an ungated memory holding a word there,
  and no fault has been logged; kept by reads and writes of those registers
  (`Bus.Plain.modify`), so by configuration and by every step (`Session.advance_plain`);
* `Session.run_plain`, `Session.levels_plain`, `Session.configure_level_plain`,
  `Summary.passed_alternating` : what a run of such a session reports;
* `Session.plain_memory_blinks` : all of it.
-/

namespace Heartbeat

theorem nodup_eraseDups {α : Type} [BEq α] [LawfulBEq α] : ∀ l : List α, l.eraseDups.Nodup
  | [] => List.nodup_nil
  | a :: as => by
    rw [List.eraseDups_cons]
    refine List.nodup_cons.mpr ⟨fun h => ?_, nodup_eraseDups _⟩
    simp [List.mem_eraseDups, List.mem_filter] at h
termination_by l => l.length
decreasing_by exact Nat.lt_succ_of_le (List.length_filter_le _ _)

namespace Bus

theorem ledRegisters_nodup (led : LedSpec) : (ledRegisters led).Nodup := nodup_eraseDups _

theorem mem_ledRegisters {led : LedSpec} {a : UInt32} :
    a ∈ ledRegisters led ↔ a ∈ led.registers := by
  simp [ledRegisters, List.mem_eraseDups, List.mem_mergeSort, LedSpec.registers]

theorem memoryCell_holds {r a : UInt32} (hr : r % 4 = 0) (ha : a % 4 = 0) :
    (memoryCell r).Holds a ↔ r = a := by
  have h4 : r.toNat % 4 = 0 := by simpa [UInt32.toNat_mod] using congrArg UInt32.toNat hr
  have h4' : a.toNat % 4 = 0 := by simpa [UInt32.toNat_mod] using congrArg UInt32.toNat ha
  rw [← UInt32.toNat_inj]
  simp only [Window.Holds, memoryCell, UInt64.reduceToNat]
  omega

variable {ω : Type}

theorem fromProfile_plain {p : Profile} (hp : p.peripherals = []) (hv : p.validate = .ok ())
    (watch : ω) : fromProfile p watch =
      .ok { Bus.empty p.name watch with windows := (ledRegisters p.led).map memoryCell } := by
  have hw : p.peripherals.mapM windowOf = .ok [] := by rw [hp]; rfl
  rw [fromProfile_of_ok watch hv hw]
  rfl

theorem cells_firstHolding {led : LedSpec} (hal : ∀ r ∈ led.registers, r % 4 = 0) {a : UInt32}
    (ha : a ∈ led.registers) :
    ∃ i, FirstHolding ((ledRegisters led).map memoryCell) a i (memoryCell a) := by
  have hfit : ∀ w ∈ (ledRegisters led).map memoryCell, w.Fits := by
    intro w hw
    obtain ⟨r, -, rfl⟩ := List.mem_map.mp hw
    have := r.toNat_lt
    simp only [Window.Fits, memoryCell, UInt64.reduceToNat]
    omega
  rcases locate_fits _ a hfit with ⟨i, w, -, hf⟩ | ⟨-, hnone⟩
  · obtain ⟨r, hr, rfl⟩ := List.mem_map.mp (List.mem_of_getElem? hf.1)
    obtain rfl := (memoryCell_holds (hal r (mem_ledRegisters.mp hr)) (hal a ha)).mp hf.2.1
    exact ⟨i, hf⟩
  · exact absurd ((memoryCell_holds (hal a ha) (hal a ha)).mpr rfl)
      (hnone _ (List.mem_map_of_mem (mem_ledRegisters.mpr ha)))

/-- The LED's registers on a bus of plain memory: each aligned and served by the first window
holding it, an ungated memory with a word there; the windows can be searched and no fault has been
logged. -/
structure Plain (b : Bus ω) (k : BlinkTarget) : Prop where
  fits : b.Fits
  clean : b.faultLog = []
  cell : ∀ a ∈ [k.clock.register.addr, k.mode.register.addr, k.output.register.addr],
    a % 4 = 0 ∧ ∃ i w m, FirstHolding b.windows a i w ∧ w.gate = none ∧ w.device = .memory m ∧
      (a - w.base).toNat / 4 < m.count

variable {b : Bus ω} {k : BlinkTarget}

theorem Plain.frame {b' : Bus ω} (hp : b.Plain k) (hwin : b'.windows = b.windows)
    (hlog : b'.faultLog = b.faultLog) : b'.Plain k where
  fits := by
    unfold Fits
    rw [hwin]
    exact hp.fits
  clean := hlog.trans hp.clean
  cell := by
    rw [hwin]
    exact hp.cell

variable [Observer ω]

theorem Plain.read (hp : b.Plain k) {a : UInt32}
    (ha : a ∈ [k.clock.register.addr, k.mode.register.addr, k.output.register.addr]) :
    (b.read a).2.Plain k := by
  obtain ⟨hal, i, w, m, hf, -, hd, hoff⟩ := hp.cell a ha
  have hx : w.device.read (a - w.base) = .ok (cellAt ((a - w.base).toNat / 4) m.cells) := by
    simp [hd, Device.read, Memory.read, hoff]
  obtain ⟨hwin, hlog⟩ := read_served hp.fits hal hf hx
  exact hp.frame hwin hlog

theorem Plain.write (hp : b.Plain k) {a : UInt32}
    (ha : a ∈ [k.clock.register.addr, k.mode.register.addr, k.output.register.addr]) (v : UInt32) :
    (b.write a v).Plain k := by
  obtain ⟨hal, i, w, m, hf, hg, hd, hoff⟩ := hp.cell a ha
  let m' : Memory := ⟨m.count, setCell ((a - w.base).toNat / 4) v m.cells⟩
  have hwr : w.device.write (a - w.base) v = .ok (.memory m') := by
    simp [hd, Device.write, Memory.write, hoff, Except.map, m']
  have hnb : b.halted = none → ¬ b.Blocked w := by
    rintro - ⟨-, g, hwg, -⟩
    rw [hg] at hwg
    cases hwg
  obtain ⟨hlog, ⟨-, hwin⟩ | ⟨-, hwin⟩⟩ := write_stored hp.fits hal hf hwr hnb
  · exact hp.frame hwin hlog
  · refine ⟨write_fits hp.fits a v, hlog.trans hp.clean, fun a' ha' => ?_⟩
    obtain ⟨hal', j, u, n, hf', hg', hd', hoff'⟩ := hp.cell a' ha'
    by_cases hij : i = j
    · subst hij
      obtain rfl : w = u := Option.some.inj (hf.1.symm.trans hf'.1)
      obtain rfl : m = n := Device.memory.inj (hd.symm.trans hd')
      refine ⟨hal', i, { w with device := .memory m' }, m', ?_, hg, rfl, hoff'⟩
      rw [hwin]
      simpa using hf'.set hf.1
    · refine ⟨hal', j, u, n, ?_, hg', hd', hoff'⟩
      rw [hwin]
      simpa [hij] using hf'.set (d := .memory m') hf.1

omit [Observer ω] in
theorem Plain.pinState_output (hp : b.Plain k) (pin : UInt8) :
    b.pinState k.output.register.addr pin = .ok none := by
  obtain ⟨-, i, w, m, hf, -, hd, -⟩ := hp.cell k.output.register.addr (by simp)
  simp [pinState, locate_first hp.fits hf, hd, Device.pinState]

theorem Plain.modify (hp : b.Plain k) {a : UInt32}
    (ha : a ∈ [k.clock.register.addr, k.mode.register.addr, k.output.register.addr]) (v : UInt32) :
    ((b.read a).2.write a v).Plain k :=
  (hp.read ha).write ha v

end Bus

namespace Session

variable {ω : Type} [Observer ω]

theorem configure_plain {s : Session ω} (hu : s.blinker.phase = .uninitialized)
    (hp : s.bus.Plain s.target) : s.configure.bus.Plain s.target := by
  have hC : s.target.clock.register.addr ∈ [s.target.clock.register.addr,
      s.target.mode.register.addr, s.target.output.register.addr] := List.mem_cons_self
  have hM : s.target.mode.register.addr ∈ [s.target.clock.register.addr,
      s.target.mode.register.addr, s.target.output.register.addr] := by simp
  obtain ⟨v1, v2, v3, h⟩ := configure_bus s hu
  rw [h]
  exact ((hp.modify hC v1).modify hM v2).modify hM v3

theorem step_plain {s : Session ω} (hb : s.blinker.phase = .blinking)
    (hp : s.bus.Plain s.target) : (s.step).2.bus.Plain s.target := by
  obtain ⟨level, hstep⟩ := step_eq s hb (waited_fits hp.fits)
  have hO : s.target.output.register.addr ∈ [s.target.clock.register.addr,
      s.target.mode.register.addr, s.target.output.register.addr] := by simp
  rw [hstep]
  change s.waited.bus.Plain s.target
  rw [waited_bus]
  exact (hp.modify hO _).frame rfl rfl

theorem advance_plain {s : Session ω} (hb : s.blinker.phase = .blinking)
    (hp : s.bus.Plain s.target) (t : Nat) : (s.advance t).bus.Plain s.target := by
  induction t generalizing s with
  | zero => exact hp
  | succ t ih =>
    have hran := step_ran hb hp.fits
    have htarget : (s.step).2.target = s.target := by
      unfold target
      rw [hran.blinker]
    have hstep := step_plain hb hp
    rw [← htarget] at hstep ⊢
    exact ih (hran.blinker ▸ hb) hstep

omit [Observer ω] in
/-- A session of a profile without peripherals runs on the cells of the LED's registers, the
profile's registers: the first window holding each is its own cell, so its bus is plain for its
heartbeat, and it starts with the LED off. -/
theorem plain_of_fromProfile {p : Profile} (hp : p.peripherals = []) {c : SimConfig} {watch : ω}
    {s : Session ω} (hs : fromProfile p c watch = .ok s) :
    s.bus.windows = (Bus.ledRegisters p.led).map Bus.memoryCell ∧
      s.target.clock.register.addr = p.led.clock.register ∧
      s.target.mode.register.addr = p.led.mode.register ∧
      s.target.output.register.addr = p.led.output.register ∧
      (∀ a ∈ [s.target.clock.register.addr, s.target.mode.register.addr,
        s.target.output.register.addr], ∃ i, FirstHolding s.bus.windows a i (Bus.memoryCell a)) ∧
      s.bus.Plain s.target ∧ s.initialLevel = false := by
  have hf := fromProfile_fresh hs
  obtain ⟨b, t, hb, ht, rfl⟩ := fromProfile_eq hs
  have hv := (Bus.fromProfile_ok hb).1
  have hal := Profile.checkLed_aligned (Profile.validate_ok hv).1
  have hclean : b.faultLog = [] := Bus.fromProfile_clean hb
  obtain ⟨-, hC, hM, hO⟩ := Profile.target?_registers ht
  obtain ⟨level, hw⟩ := withBus_eq (Bus.fromProfile_fits hb) t c
  rw [Bus.fromProfile_plain hp hv watch, Except.ok.injEq] at hb
  subst hb
  rw [hw] at hf ⊢
  have hcells : ∀ a ∈ [t.clock.register.addr, t.mode.register.addr, t.output.register.addr],
      ∃ i, FirstHolding ((Bus.ledRegisters p.led).map Bus.memoryCell) a i (Bus.memoryCell a) := by
    have hal' : ∀ r ∈ p.led.registers, r % 4 = 0 := by
      simp only [LedSpec.registers, List.mem_cons, List.not_mem_nil, or_false]
      rintro r (rfl | rfl | rfl)
      exacts [hal.1, hal.2.1, hal.2.2]
    intro a ha
    apply Bus.cells_firstHolding hal'
    simp only [List.mem_cons, List.not_mem_nil, or_false] at ha
    simp only [LedSpec.registers, List.mem_cons, List.not_mem_nil, or_false]
    rcases ha with rfl | rfl | rfl
    exacts [.inl hC, .inr (.inl hM), .inr (.inr hO)]
  refine ⟨rfl, hC, hM, hO, hcells, ⟨hf.fits, hclean, fun a ha => ⟨?_, ?_⟩⟩, ?_⟩
  · simp only [List.mem_cons, List.not_mem_nil, or_false] at ha
    rcases ha with rfl | rfl | rfl
    exacts [hf.clock, hf.mode, hf.output]
  · obtain ⟨i, hfirst⟩ := hcells a ha
    exact ⟨i, Bus.memoryCell a, Memory.init 4, hfirst, rfl, rfl,
      by simp [Bus.memoryCell, Memory.init]⟩
  · -- the output register's cell is zeroed
    obtain ⟨i, hfirst⟩ := hcells t.output.register.addr (by simp)
    have hpeek := Bus.peek_of_firstHolding hf.fits hfirst
    simp only [Bus.memoryCell, Device.read, Memory.read, Memory.init, UInt32.sub_self,
      UInt32.toNat_zero, UInt64.reduceToNat] at hpeek
    simp only [Except.toOption, cellAt] at hpeek
    rw [← hf.shows]
    exact (level_of_peek (x := 0) hpeek).trans (by simp)

theorem advance_plain_fromProfile {p : Profile} (hp : p.peripherals = []) {c : SimConfig}
    {watch : ω} {s : Session ω} (hs : fromProfile p c watch = .ok s) (t : Nat) :
    (s.configure.advance t).bus.Plain (s.configure.advance t).target := by
  have hf := fromProfile_fresh hs
  have hc := configure_fromProfile hs
  obtain ⟨-, -, -, -, -, hplain, -⟩ := plain_of_fromProfile hp hs
  have hconf := configure_plain hf.unconfigured hplain
  rw [← configure_target s hf.unconfigured] at hconf
  have htarget : (s.configure.advance t).target = s.configure.target :=
    congrArg Blinker.target (advance_ran hc.blinking hc.fits t).blinker
  rw [htarget]
  exact advance_plain hc.blinking hconf t

/-- A run of a session a profile without peripherals gives logs no fault and makes every toggle
asked; it reports no pin, and the LED was off before it. -/
theorem run_plain {p : Profile} (hp : p.peripherals = []) {c : SimConfig} {watch : ω}
    {s : Session ω} (hs : fromProfile p c watch = .ok s) (N : UInt64) :
    (s.run N.toNat).1.faults = [] ∧ (s.run N.toNat).1.toggles = N ∧
      (s.run N.toNat).1.ledPin = none ∧ (s.run N.toNat).1.initialLevel = false := by
  have hc := configure_fromProfile hs
  have hplain := advance_plain_fromProfile hp hs
  have hgo : ∀ t, ¬ (s.configure.advance t).Stops := fun t hst => hst.2 (hplain t).clean
  obtain ⟨htog, -, hfaults⟩ := run_unstopped hc N.toNat_lt hgo
  obtain ⟨T, -, -, -, -, hinit, hpin⟩ := run_summary hs N.toNat
  obtain ⟨-, -, -, -, -, -, hoff⟩ := plain_of_fromProfile hp hs
  refine ⟨by rw [hfaults, Bus.faults, (hplain N.toNat).clean, List.reverse_nil],
    UInt64.toNat_inj.mp htog, ?_, hinit.trans hoff⟩
  rw [ledPin, (hplain T).pinState_output, Except.ok.injEq] at hpin
  exact hpin.symm

/-- The levels of a run of a session a profile without peripherals gives, when its bus still
runs: every step flips the LED, from the level configuration left. -/
theorem levels_plain {p : Profile} (hp : p.peripherals = []) {c : SimConfig} {watch : ω}
    {s : Session ω} (hs : fromProfile p c watch = .ok s) {N : Nat} (hN : N < 2 ^ 64)
    (hrun : (s.run N).2.bus.halted = none) :
    (s.run N).1.levels = (List.range N).map fun i => Bool.xor s.configure.level (i % 2 == 0) := by
  have hf := fromProfile_fresh hs
  have hc := configure_fromProfile hs
  have hplain := advance_plain_fromProfile hp hs
  obtain ⟨T, -, hstate, hlevels, -⟩ := run_summary hs N
  have hgo : ∀ t, ¬ (s.configure.advance t).Stops := fun t hst => hst.2 (hplain t).clean
  obtain ⟨T', -, -, htog, hlen, -⟩ := run_steps hc N hN
  obtain ⟨htog', -⟩ := run_unstopped hc hN hgo
  obtain rfl : T = N := by
    rw [← htog', htog, ← hlen, hlevels, List.length_map, List.length_range]
  rw [hstate] at hrun
  obtain ⟨-, -, -, -, -, hplain0, -⟩ := plain_of_fromProfile hp hs
  obtain ⟨hal, j, u0, m, h0, -, hd, hoff⟩ := hplain0.cell s.target.output.register.addr (by simp)
  have hb0 : u0.device.ReadsBack (s.target.output.register.addr - u0.base) s.target.output.pin := by
    rw [hd]
    exact hoff
  have hr0 : Bus.Reached s.bus s.bus := ⟨rfl, hf.fits, hf.tidy⟩
  have hr1 := configure_reached hf.unconfigured hr0
  have ht1 := configure_target s hf.unconfigured
  rw [← ht1] at h0 hb0 hal
  have hsteps := advance_flips hc.blinking hc.fits hr1 h0 hb0 hal hrun
  obtain ⟨-, halt, -⟩ := recorded_of_steps (fun i => (s.configure.advance i).level)
    (fun i => (s.configure.advance i).bus.faults) hsteps
  rw [hlevels, halt (by rw [Bus.faults, (hplain T).clean, List.reverse_nil])]
  apply List.map_congr_left
  intro i _
  by_cases h2 : i % 2 = 0
  · simp [h2, advance]
  · have hodd : (i % 2 == 0) = false := by simpa using h2
    simp [h2, hodd, advance]

/-- Configuration can turn the LED on only through the output register's own cell: when the
output register is neither the clock nor the mode register, configuring leaves it off. -/
theorem configure_level_plain {p : Profile} (hp : p.peripherals = []) {c : SimConfig}
    {watch : ω} {s : Session ω} (hs : fromProfile p c watch = .ok s)
    (hon : s.configure.level = true) :
    p.led.output.register = p.led.clock.register ∨ p.led.output.register = p.led.mode.register := by
  have hf := fromProfile_fresh hs
  obtain ⟨-, hC, hM, hO, hcells, -, hoff⟩ := plain_of_fromProfile hp hs
  rw [← hC, ← hM, ← hO]
  by_contra hne
  obtain ⟨hnc, hnm⟩ := not_or.mp hne
  obtain ⟨j, h0⟩ := hcells s.target.output.register.addr (by simp)
  have hb0 : (Bus.memoryCell s.target.output.register.addr).device.ReadsBack
      (s.target.output.register.addr - (Bus.memoryCell s.target.output.register.addr).base)
      s.target.output.pin := by
    simp [Bus.memoryCell, Device.ReadsBack, Memory.init]
  -- the output register's cell holds neither of the two registers configuration writes
  have hC' := fun h => hnc ((Bus.memoryCell_holds hf.output hf.clock).mp h)
  have hM' := fun h => hnm ((Bus.memoryCell_holds hf.output hf.mode).mp h)
  have hlevel := configure_level hf.unconfigured ⟨rfl, hf.fits, hf.tidy⟩ h0 hb0
    (fun h => absurd h hC') (fun h => absurd h hM')
  rw [hlevel, hf.shows, hoff] at hon
  exact Bool.false_ne_true hon

end Session

/-- A summary with no fault and no pin, from the LED off, whose levels alternate from `!lc`
passes exactly when some level is on: after one step when `lc` is off, after two when it is
on. -/
theorem Summary.passed_alternating {r : Summary} {lc : Bool} {N : Nat} (hf : r.faults = [])
    (hpin : r.ledPin = none) (hinit : r.initialLevel = false)
    (hl : r.levels = (List.range N).map fun i => Bool.xor lc (i % 2 == 0)) :
    r.passed = true ↔ 1 ≤ N ∧ (lc = false ∨ 2 ≤ N) := by
  simp only [Summary.passed, hf, hpin, hinit, hl, List.isEmpty_nil, Bool.true_and, Bool.and_true,
    List.any_map, List.any_eq_true, List.mem_range]
  cases lc with
  | false =>
    constructor
    · rintro ⟨i, hi, -⟩
      exact ⟨by omega, .inl rfl⟩
    · rintro ⟨h1, -⟩
      exact ⟨0, by omega, by simp⟩
  | true =>
    constructor
    · rintro ⟨i, hi, h⟩
      have hodd : i % 2 = 1 := by
        by_contra he
        simp [show i % 2 = 0 by omega] at h
      exact ⟨by omega, .inr (by omega)⟩
    · rintro ⟨-, h | h⟩
      · cases h
      · exact ⟨1, by omega, by simp⟩

namespace Session

variable {ω : Type} [Observer ω]

/-- **A board without peripherals blinks in plain memory.** Its bus holds one ungated, zeroed
4-byte memory cell at each distinct LED register and nothing else. A session on it logs no fault,
makes every toggle asked, reports no pin and starts with the LED off; configuration can leave
the LED on only when the output register is the clock or the mode register. While the counters
have room the bus runs on; and whenever it does, the levels alternate from the configured level
`lc`, so the run passes exactly when it makes a step and, if `lc` is on, a second one. -/
theorem plain_memory_blinks (p : Profile) (hp : p.peripherals = []) (hv : p.validate = .ok ())
    (c : SimConfig) (watch : ω) :
    (∃ b, Bus.fromProfile p watch = .ok b ∧
      b.windows = (Bus.ledRegisters p.led).map Bus.memoryCell ∧
      (∀ w ∈ b.windows, w.gate = none ∧ w.size = 4 ∧ w.device = .memory (Memory.init 4)) ∧
      (Bus.ledRegisters p.led).Nodup ∧ ∀ a, a ∈ Bus.ledRegisters p.led ↔ a ∈ p.led.registers) ∧
    ∃ s, fromProfile p c watch = .ok s ∧
      (s.configure.level = true →
        p.led.output.register = p.led.clock.register ∨
          p.led.output.register = p.led.mode.register) ∧
      ∀ N : UInt64,
        (s.run N.toNat).1.faults = [] ∧ (s.run N.toNat).1.toggles = N ∧
        (s.run N.toNat).1.ledPin = none ∧ (s.run N.toNat).1.initialLevel = false ∧
        (6 + N.toNat * (2 + c.nopCycles.toNat * (c.delayFor p.delayCount).toNat) < 2 ^ 64 →
          N.toNat * (c.delayFor p.delayCount).toNat < 2 ^ 64 →
          (s.run N.toNat).2.bus.halted = none) ∧
        ((s.run N.toNat).2.bus.halted = none →
          (s.run N.toNat).1.levels =
            (List.range N.toNat).map (fun i => Bool.xor s.configure.level (i % 2 == 0)) ∧
          ((s.run N.toNat).1.passed = true ↔
            1 ≤ N.toNat ∧ (s.configure.level = false ∨ 2 ≤ N.toNat))) := by
  have hb := Bus.fromProfile_plain hp hv watch
  obtain ⟨t, ht, -⟩ := Profile.target_exact ((Profile.validate_ok_iff p).mp hv)
  have hs := fromProfile_of_ok hb ht c
  refine ⟨⟨_, hb, rfl, ?_, Bus.ledRegisters_nodup p.led, fun a => Bus.mem_ledRegisters⟩,
    _, hs, configure_level_plain hp hs, fun N => ?_⟩
  · intro w hw
    obtain ⟨r, -, rfl⟩ := List.mem_map.mp hw
    exact ⟨rfl, rfl, rfl⟩
  obtain ⟨hf, htog, hpin, hinit⟩ := run_plain hp hs N
  refine ⟨hf, htog, hpin, hinit, run_running hs N.toNat, fun hrun => ?_⟩
  have hl := levels_plain hp hs N.toNat_lt hrun
  exact ⟨hl, Summary.passed_alternating hf hpin hinit hl⟩

end Session

/-- A board that declares no peripherals, its LED at port C's registers of a Blue Pill. -/
def Profile.bare : Profile :=
  { schemaVersion := supportedSchema, name := "bare", chip := "stm32f103c8", description := none,
    peripherals := [],
    led := ⟨⟨0x40021018, 4⟩, ⟨0x40011004, 20, 4, 2⟩, ⟨0x4001100C, 13⟩⟩, delayCount := 3 }

/-- The bare board's default session passes a run of two toggles. -/
theorem Session.plain_memory_blinks_bare :
    ∃ s, Session.fromProfile Profile.bare SimConfig.default () = .ok s ∧
      (s.run 2).1.faults = [] ∧ (s.run 2).1.passed = true := by
  have hv : Profile.bare.validate = .ok () := by decide +kernel
  obtain ⟨-, s, hs, -, hrun⟩ :=
    Session.plain_memory_blinks Profile.bare rfl hv SimConfig.default ()
  obtain ⟨hf, -, -, -, hroom, hlevels⟩ := hrun 2
  obtain ⟨-, hpass⟩ := hlevels (hroom (by decide) (by decide))
  exact ⟨s, hs, hf, hpass.mpr ⟨by decide, .inr (by decide)⟩⟩

end Heartbeat
