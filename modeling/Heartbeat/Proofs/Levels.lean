import Heartbeat.Proofs.Echo
/-!
# The levels of a run follow its faults

A step of the blink loop flips the LED's output bit by a read-modify-write of the output register
and then waits; the session then records the level the register shows. When the model behind the
register reads it back, the write either lands, and the recorded level flips, or is dropped by the
gate with one fault logged, and the level stays. Nothing else a run does reaches the register: the
waits touch no model, and configuration writes only the clock and mode registers, which, kept off
the output register and its port's set/reset registers, leave the level as the session found it.

* `Bus.Reached b0 b` : `b` has the windows of `b0`, powered on alike, can be searched and keeps
  its tables in order; reads, writes and read-modify-writes keep it (`Bus.Reached.modify`);
* `Bus.Echo b a pin j u` : the first window holding `a` reads it back on `pin`;
  `Bus.Echo.toggle` is one flip of that bit;
* `Bus.Spares b a' a` : a write at `a'` cannot move the bits at `a`;
* `Session.level` : the level a session shows;
* `Session.step_flips`, `Session.advance_flips` : each step flips with no fault or logs one;
* `Session.flips_of_steps` : what that law makes of a whole run;
* `Session.levels_follow_faults` : the levels of a run of a session a profile gives.
-/

namespace Heartbeat

namespace Bus

variable {ω : Type} {b : Bus ω}

theorem writeWord_ok_first (hfit : b.Fits) {a v : UInt32} {b' : Bus ω}
    (h : b.writeWord a v = .ok (.ok b')) :
    ∃ i w d, FirstHolding b.windows a i w ∧ w.device.write (a - w.base) v = .ok d ∧
      b'.windows = b.windows.set i { w with device := d } := by
  by_cases ha : a % 4 = 0
  · rcases locate_fits b.windows a hfit with ⟨i, w, -, hf⟩ | ⟨-, hn⟩
    · by_cases hb : b.Blocked w
      · rw [writeWord_blocked hfit ha v hf hb] at h
        cases h
      · cases hd : w.device.write (a - w.base) v with
        | ok d =>
          rw [writeWord_stored hfit ha v hf hb hd, Except.ok.injEq, Except.ok.injEq] at h
          exact ⟨i, w, d, hf, hd, by rw [← h]⟩
        | error e =>
          rw [writeWord_refused hfit ha v hf hb hd] at h
          cases h
    · rw [writeWord_unmapped hfit ha v hn] at h
      cases h
  · rw [writeWord_unaligned b v ha] at h
    cases h

def Tidy (b : Bus ω) : Prop := ∀ w ∈ b.windows, w.device.Tidy

/-- The window `u`, at place `j`, is the first to hold `a`; its model reads `a` back on bit `pin`
and keeps its table in order. -/
structure Echo (b : Bus ω) (a : UInt32) (pin : UInt8) (j : Nat) (u : Window) : Prop where
  first : FirstHolding b.windows a j u
  back : u.device.ReadsBack (a - u.base) pin
  tidy : u.device.Tidy

theorem Echo.peek {a : UInt32} {pin : UInt8} {j : Nat} {u : Window} (he : b.Echo a pin j u)
    (hfit : b.Fits) : ∃ x, u.device.read (a - u.base) = .ok x ∧ b.peek a = .ok (some x) := by
  obtain ⟨x, hx⟩ := he.back.read_ok
  refine ⟨x, hx, ?_⟩
  rw [peek_of_firstHolding hfit he.first, hx]
  rfl

theorem fromProfile_tidy {p : Profile} {watch : ω} (h : fromProfile p watch = .ok b) : b.Tidy := by
  obtain ⟨-, ws, hws, rfl⟩ := fromProfile_ok h
  intro w hw
  split at hw
  · obtain ⟨r, -, rfl⟩ := List.mem_map.mp hw
    exact List.Pairwise.nil
  · obtain ⟨i, hi⟩ := List.mem_iff_getElem?.mp hw
    obtain ⟨q, -, hq⟩ := Forall₂.getElem? (mapM_forall₂ hws).flip hi
    obtain ⟨size, d, -, hd, hp, -⟩ := windowOf_eq hq
    have hfresh := Device.tidy_of_reset (Device.build_reset hd)
    have := Device.Tidy.presetAll q.resetValues.entries hfresh
    rwa [hp] at this

/-- A bus some accesses after `b0`: its windows power on as `b0`'s do, can be searched, and keep
their memory tables in order. -/
structure Reached (b0 b : Bus ω) : Prop where
  cold : b.windows.map Window.cold = b0.windows.map Window.cold
  fits : b.Fits
  tidy : b.Tidy

theorem Reached.of_windows {b0 b' : Bus ω} (h : Reached b0 b) (hw : b'.windows = b.windows) :
    Reached b0 b' := by
  refine ⟨?_, ?_, ?_⟩
  · rw [hw]
    exact h.cold
  · unfold Fits
    rw [hw]
    exact h.fits
  · unfold Tidy
    rw [hw]
    exact h.tidy

theorem Reached.echo {b0 : Bus ω} (h : Reached b0 b) {a : UInt32} {pin : UInt8} {j : Nat} {u0 : Window}
    (h0 : FirstHolding b0.windows a j u0) (hb0 : u0.device.ReadsBack (a - u0.base) pin) :
    ∃ u, b.Echo a pin j u ∧ u.cold = u0.cold := by
  obtain ⟨u, hf, hc⟩ := h0.of_cold h.cold
  have hdev : u.device.reset = u0.device.reset := congrArg Window.device hc
  have hbase : u.base = u0.base := (congrArg Window.base hc : u.cold.base = u0.cold.base)
  refine ⟨u, ⟨hf, ?_, h.tidy u (List.mem_of_getElem? hf.1)⟩, hc⟩
  rw [hbase, Device.readsBack_of_reset hdev]
  exact hb0

/-- The first window holding `a` has a model that reads `a` back on bit `pin`. -/
def ReadsBack (b : Bus ω) (a : UInt32) (pin : UInt8) : Prop :=
  ∃ j u, FirstHolding b.windows a j u ∧ u.device.ReadsBack (a - u.base) pin

/-- A write at `a'` cannot move the output bits at `a`: `a'` is not `a` and, when a GPIO port is
the first window to hold `a`, neither the port's set/reset register nor its reset register. -/
def Spares (b : Bus ω) (a' a : UInt32) : Prop :=
  a' ≠ a ∧ ∀ j u g, FirstHolding b.windows a j u → u.device = .gpio g →
    a' ≠ u.base + g.layout.bsrrOffset ∧ a' ≠ u.base + g.layout.brrOffset

theorem Spares.apart {a' a : UInt32} (hs : b.Spares a' a) {j : Nat} {u : Window}
    (hf : FirstHolding b.windows a j u) (ha : a % 4 = 0) (ha' : a' % 4 = 0) (hu : u.Holds a') :
    u.device.Apart (a' - u.base) (a - u.base) := by
  have hne : a' - u.base ≠ a - u.base := fun h => hs.1 (by
    rw [← UInt32.sub_add_cancel a' u.base, h, UInt32.sub_add_cancel])
  cases hd : u.device with
  | gpio g =>
    obtain ⟨h1, h2⟩ := hs.2 j u g hf hd
    refine ⟨hne, fun h => h1 ?_, fun h => h2 ?_⟩
    · rw [← UInt32.sub_add_cancel a' u.base, h, UInt32.add_comm]
    · rw [← UInt32.sub_add_cancel a' u.base, h, UInt32.add_comm]
  | rcc r => exact hne
  | memory m =>
    have hle := UInt32.le_iff_toNat_le.mpr hu.1
    have hle' := UInt32.le_iff_toNat_le.mpr hf.2.1.1
    have h4 : a.toNat % 4 = 0 := by simpa [UInt32.toNat_mod] using congrArg UInt32.toNat ha
    have h4' : a'.toNat % 4 = 0 := by simpa [UInt32.toNat_mod] using congrArg UInt32.toNat ha'
    have hne' : a'.toNat ≠ a.toNat := fun h => hs.1 (UInt32.toNat_inj.mp h)
    show (a' - u.base).toNat / 4 ≠ (a - u.base).toNat / 4
    rw [UInt32.toNat_sub_of_le _ _ hle, UInt32.toNat_sub_of_le _ _ hle']
    have := hu.1
    have := hf.2.1.1
    omega

theorem Echo.pinState {a : UInt32} {pin : UInt8} {j : Nat} {u : Window} (he : b.Echo a pin j u)
    (hfit : b.Fits) {x : UInt32} (hx : b.peek a = .ok (some x)) {ps : PinState}
    (hps : b.pinState a pin = .ok (some ps)) : ps.level = x.toNat.testBit pin.toNat := by
  simp only [Bus.pinState, locate_first hfit he.first, ok_bind, ok_eq_pure, Except.ok.injEq] at hps
  rw [peek_of_firstHolding hfit he.first] at hx
  have hback := he.back
  cases hd : u.device with
  | gpio g =>
    rw [hd] at hback hps hx
    obtain ⟨hodr, hp⟩ := hback
    have hp' : pin.toNat < 16 := by simpa [UInt8.lt_iff_toNat_lt] using hp
    simp only [Device.pinState, Gpio.pinState, hp, if_true, Option.some.injEq] at hps
    simp only [Device.read, hodr, Gpio.read_odr, Except.toOption, Except.ok.injEq,
      Option.some.injEq] at hx
    rw [← hps, ← hx]
    exact Gpio.pinLevel_eq g hp'
  | rcc r =>
    rw [hd] at hps
    cases hps
  | memory m =>
    rw [hd] at hps
    cases hps

variable [Observer ω]

/-- A write through the register interface leaves the windows, or gives the first window holding
the address what that window's own write returns. -/
theorem write_windows (hfit : b.Fits) (a v : UInt32) :
    (b.write a v).windows = b.windows ∨ ∃ i w d, FirstHolding b.windows a i w ∧
      w.device.write (a - w.base) v = .ok d ∧
      (b.write a v).windows = b.windows.set i { w with device := d } := by
  unfold write
  split
  · exact .inl rfl
  · cases hw : b.writeAt a v with
    | error e => exact .inl rfl
    | ok b' =>
      rcases writeAt_windows hw with h | ⟨b'', hww, h⟩
      · exact .inl h
      · obtain ⟨i, w, d, hf, hd, h'⟩ := writeWord_ok_first hfit hww
        exact .inr ⟨i, w, d, hf, hd, h.trans h'⟩

theorem Tidy.write (ht : b.Tidy) (hfit : b.Fits) (a v : UInt32) : (b.write a v).Tidy := by
  rcases write_windows hfit a v with h | ⟨i, w, d, hf, hd, h⟩
  · unfold Tidy
    rw [h]
    exact ht
  · intro u hu
    rw [h] at hu
    rcases List.mem_or_eq_of_mem_set hu with hu | rfl
    · exact ht u hu
    · exact (ht w (List.mem_of_getElem? hf.1)).write hd

theorem Reached.read {b0 : Bus ω} (h : Reached b0 b) (a : UInt32) : Reached b0 (b.read a).2 :=
  h.of_windows (read_frame b a).1

theorem Reached.write {b0 : Bus ω} (h : Reached b0 b) (a v : UInt32) : Reached b0 (b.write a v) :=
  ⟨(write_cold b a v).trans h.cold, write_fits h.fits a v, h.tidy.write h.fits a v⟩

theorem Reached.modify {b0 : Bus ω} (h : Reached b0 b) (a v : UInt32) : Reached b0 ((b.read a).2.write a v) :=
  (h.read a).write a v

section Echo

variable {a : UInt32} {pin : UInt8} {j : Nat} {u : Window}

theorem Echo.write_apart (he : b.Echo a pin j u) (hfit : b.Fits) {a' : UInt32}
    (hapart : u.Holds a' → u.device.Apart (a' - u.base) (a - u.base)) (v : UInt32) :
    (b.write a' v).peek a = b.peek a := by
  have hfit' := write_fits hfit a' v
  rcases write_windows hfit a' v with h | ⟨i, w, d, hf, hd, h⟩
  · exact (queries_of_windows h a).1
  · by_cases hij : i = j
    · subst hij
      obtain rfl : w = u := Option.some.inj (hf.1.symm.trans he.first.1)
      have hread := he.back.read_write_apart (hapart hf.2.1) hd
      have hf' : FirstHolding (b.write a' v).windows a i { w with device := d } := by
        rw [h]
        exact he.first.set_self d
      rw [peek_of_firstHolding hfit' hf', peek_of_firstHolding hfit he.first]
      exact congrArg (fun r => Except.ok (Except.toOption r)) hread
    · have hf' : FirstHolding (b.write a' v).windows a j u := by
        rw [h]
        exact he.first.set_ne hf.1 hij d
      rw [peek_of_firstHolding hfit' hf', peek_of_firstHolding hfit he.first]

/-- **Toggling the output register.** Reading it and writing back the read value with the pin's
bit flipped either is taken, with no fault, and leaves the bit flipped; or logs one fault and
leaves the value as it was. -/
theorem Echo.toggle (he : b.Echo a pin j u) (hfit : b.Fits) (ha : a % 4 = 0)
    (hp : pin.toNat < 32)
    (hh : ((b.read a).2.write a ((b.read a).1 ^^^ 1 <<< pin.toUInt32)).halted = none) :
    ∃ x x', b.peek a = .ok (some x) ∧
      ((b.read a).2.write a ((b.read a).1 ^^^ 1 <<< pin.toUInt32)).peek a = .ok (some x') ∧
      ((((b.read a).2.write a ((b.read a).1 ^^^ 1 <<< pin.toUInt32)).faults = b.faults ∧
          x'.toNat.testBit pin.toNat = !x.toNat.testBit pin.toNat) ∨
        (∃ f, ((b.read a).2.write a ((b.read a).1 ^^^ 1 <<< pin.toUInt32)).faults =
          b.faults ++ [f] ∧ x' = x)) := by
  obtain ⟨hh0, hc0, hh1, hc1⟩ := modify_running hfit a _ hh
  obtain ⟨x, hx, hpeek⟩ := he.peek hfit
  have hrs := read_spec hfit hh0 hc0 a
  obtain ⟨hval, hfaults1⟩ := hrs.served j u x ha he.first hx
  have hfit1 : (b.read a).2.Fits := read_fits hfit a
  have hf1 : FirstHolding (b.read a).2.windows a j u := by
    rw [hrs.frame]
    exact he.first
  have hws := write_spec hfit1 hh1 hc1 a ((b.read a).1 ^^^ 1 <<< pin.toUInt32)
  rw [hval] at hws ⊢
  refine ⟨x, ?_⟩
  by_cases hb : (b.read a).2.Blocked u
  · -- the gate drops the write
    obtain ⟨hw, hf⟩ := hws.blocked j u ha hf1 hb
    refine ⟨x, hpeek, ?_, .inr ⟨_, by rw [hf, hfaults1], rfl⟩⟩
    rw [(queries_of_windows (hw.trans hrs.frame) a).1, hpeek]
  · obtain ⟨d, hd⟩ := Device.write_ok_of_read_ok ⟨x, hx⟩ (x ^^^ 1 <<< pin.toUInt32)
    obtain ⟨hw, hf⟩ := hws.stored j u d ha hf1 hb hd
    obtain ⟨x', hx', hbit⟩ := he.back.read_write he.tidy hd
    have hf' : FirstHolding ((b.read a).2.write a (x ^^^ 1 <<< pin.toUInt32)).windows a j
        { u with device := d } := by
      rw [hw]
      exact hf1.set_self d
    refine ⟨x', hpeek, ?_, .inl ⟨hf.trans hfaults1, ?_⟩⟩
    · rw [peek_of_firstHolding (write_fits hfit1 a _) hf']
      exact congrArg (fun r => Except.ok (Except.toOption r)) hx'
    · rw [hbit, testBit_xor_mask x hp]

end Echo

theorem Reached.write_apart {b0 : Bus ω} (h : Reached b0 b) {a a' : UInt32} {pin : UInt8} {j : Nat}
    {u0 : Window} (h0 : FirstHolding b0.windows a j u0) (hb0 : u0.device.ReadsBack (a - u0.base) pin)
    (hapart : u0.Holds a' → u0.device.Apart (a' - u0.base) (a - u0.base)) (v : UInt32) :
    (b.write a' v).peek a = b.peek a := by
  obtain ⟨u, he, hc⟩ := h.echo h0 hb0
  have hdev : u.device.reset = u0.device.reset := congrArg Window.device hc
  have hbase : u.base = u0.base := (congrArg Window.base hc : u.cold.base = u0.cold.base)
  refine he.write_apart h.fits (fun hu => ?_) v
  rw [hbase, Device.apart_of_reset hdev]
  exact hapart (Window.holds_cold.mp (hc ▸ Window.holds_cold.mpr hu))

theorem Reached.modify_apart {b0 : Bus ω} (h : Reached b0 b) {a a' : UInt32} {pin : UInt8}
    {j : Nat} {u0 : Window} (h0 : FirstHolding b0.windows a j u0)
    (hb0 : u0.device.ReadsBack (a - u0.base) pin)
    (hapart : u0.Holds a' → u0.device.Apart (a' - u0.base) (a - u0.base)) (v : UInt32) :
    ((b.read a').2.write a' v).peek a = b.peek a := by
  rw [(h.read a').write_apart h0 hb0 hapart v]
  exact (queries_of_windows (read_frame b a').1 a).1

end Bus

namespace Session

variable {ω : Type}

def level (s : Session ω) : Bool := (s.probe ledLevel false).1

theorem ledLevel_level {s : Session ω} (hfit : s.bus.Fits) : s.ledLevel = .ok s.level := by
  obtain ⟨v, hv⟩ := Bus.peek_ok hfit s.target.output.register.addr
  cases v <;> simp [level, probe, ledLevel, hv]

theorem level_of_peek {s : Session ω} {x : UInt32}
    (h : s.bus.peek s.target.output.register.addr = .ok (some x)) :
    s.level = x.toNat.testBit s.target.output.pin.toNat := by
  simp only [level, probe, ledLevel, h, ok_bind, ok_eq_pure]
  exact testBit_mask x s.target.output.pin_lt

/-- The pin a session reports, where its output register's window reads the register back, shows
the session's level. -/
theorem ledPin_level {s : Session ω} (hfit : s.bus.Fits) {j : Nat} {u : Window}
    (he : s.bus.Echo s.target.output.register.addr s.target.output.pin j u) {ps : PinState}
    (h : s.ledPin = .ok (some ps)) : ps.level = s.level := by
  obtain ⟨x, -, hx⟩ := he.peek hfit
  rw [he.pinState hfit hx h, level_of_peek hx]

theorem level_of_peek_eq {s s' : Session ω} (ht : s'.target = s.target)
    (h : s'.bus.peek s.target.output.register.addr = s.bus.peek s.target.output.register.addr) :
    s'.level = s.level := by
  simp only [level, probe, ledLevel, ht, h]
  cases s.bus.peek s.target.output.register.addr with
  | error e => rfl
  | ok o => cases o <;> rfl

theorem level_levelsRev (s : Session ω) (l : List Bool) : ({ s with levelsRev := l }).level = s.level :=
  level_of_peek_eq rfl rfl

variable [Observer ω]

theorem step_level (s : Session ω) (hb : s.blinker.phase = .blinking) (hfit : s.waited.bus.Fits) :
    let s' : Session ω := { s with rig := s.waited }
    s.step = (s'.level, { s' with levelsRev := s'.level :: s.levelsRev }) := by
  intro s'
  obtain ⟨l, hl⟩ := probe_ledLevel (s := { s with rig := s.waited }) hfit
  have hstep : s.step = (({ s with rig := s.waited }.probe ledLevel false).1,
      { ({ s with rig := s.waited }.probe ledLevel false).2 with
        levelsRev := ({ s with rig := s.waited }.probe ledLevel false).1 ::
          ({ s with rig := s.waited }.probe ledLevel false).2.levelsRev }) := by
    simp only [step, Blinker.step_eq, Blinker.toggle_eq, Blinker.configure_blinking _ _ hb]
    rfl
  rw [hstep]
  simp only [s', level, hl]

theorem step_record {s : Session ω} (hb : s.blinker.phase = .blinking) (hfit : s.bus.Fits) :
    (s.step).1 = (s.step).2.level ∧ (s.step).2.levelsRev = (s.step).1 :: s.levelsRev ∧
      (s.step).2.initialLevel = s.initialLevel := by
  rw [step_level s hb (waited_fits hfit)]
  dsimp only
  exact ⟨(level_levelsRev { s with rig := s.waited } _).symm, rfl, rfl⟩

theorem step_reached {s : Session ω} (hb : s.blinker.phase = .blinking) (hfit : s.bus.Fits)
    {b0 : Bus ω} (hr : Bus.Reached b0 s.bus) : Bus.Reached b0 (s.step).2.bus := by
  rw [step_level s hb (waited_fits hfit)]
  change Bus.Reached b0 s.waited.bus
  apply (hr.modify _ _).of_windows
  rw [waited_bus]
  rfl

/-- **One step.** On a bus whose output register's window reads the register back, a step that
leaves the bus running either flips the level with no fault logged, or keeps it and logs one. -/
theorem step_flips {s : Session ω} (hb : s.blinker.phase = .blinking) (hfit : s.bus.Fits)
    {j : Nat} {u : Window} (he : s.bus.Echo s.target.output.register.addr s.target.output.pin j u)
    (ha : s.target.output.register.addr % 4 = 0) (hrun : (s.step).2.bus.halted = none) :
    ((s.step).2.level = !s.level ∧ (s.step).2.bus.faults = s.bus.faults) ∨
      ((s.step).2.level = s.level ∧ ∃ f, (s.step).2.bus.faults = s.bus.faults ++ [f]) := by
  have hstep := step_level s hb (waited_fits hfit)
  have hbus : (s.step).2.bus = s.waited.bus := by
    rw [hstep]
    rfl
  -- the wait changes no window and logs nothing, so the step is the output register's toggle
  rw [hbus, waited_bus] at hrun
  split at hrun
  · cases hrun
  obtain ⟨x, x', hpeek, hpeek', hcases⟩ := he.toggle hfit ha s.target.output.pin_lt hrun
  have hlev : s.level = x.toNat.testBit s.target.output.pin.toNat := level_of_peek hpeek
  have hlev' : (s.step).2.level = x'.toNat.testBit s.target.output.pin.toNat := by
    rw [hstep]
    apply level_of_peek
    change s.waited.bus.peek _ = _
    rw [waited_bus]
    exact hpeek'
  have hfaults : (s.step).2.bus.faults = s.flipped.faults := by
    rw [hbus, waited_bus]
    rfl
  rw [hlev', hlev, hfaults]
  rcases hcases with ⟨hf, hbit⟩ | ⟨f, hf, rfl⟩
  · exact .inl ⟨hbit, hf⟩
  · exact .inr ⟨rfl, f, hf⟩

/-! ### A run, step after step -/

theorem advance_succ (s : Session ω) (t : Nat) : s.advance (t + 1) = ((s.advance t).step).2 := by
  induction t generalizing s with
  | zero => rfl
  | succ t ih =>
    rw [advance.eq_2 s (t + 1), ih (s.step).2, advance.eq_2 s t]

theorem advance_add (s : Session ω) (t k : Nat) : s.advance (t + k) = (s.advance t).advance k := by
  induction t generalizing s with
  | zero => rw [Nat.zero_add]; rfl
  | succ t ih =>
    rw [Nat.add_right_comm]
    exact ih (s.step).2

section Run

variable {s : Session ω} (hb : s.blinker.phase = .blinking) (hfit : s.bus.Fits)
include hb hfit

theorem advance_running {t T : Nat} (htT : t ≤ T) (h : (s.advance T).bus.halted = none) :
    (s.advance t).bus.halted = none := by
  have hr := advance_ran hb hfit t
  have hran := advance_ran (hr.blinker ▸ hb) hr.fits (T - t)
  rw [← advance_add, Nat.add_sub_cancel' htT] at hran
  exact hran.halted h

theorem advance_reached {b0 : Bus ω} (hr : Bus.Reached b0 s.bus) (t : Nat) :
    Bus.Reached b0 (s.advance t).bus := by
  induction t with
  | zero => exact hr
  | succ t ih =>
    have hran := advance_ran hb hfit t
    rw [advance_succ]
    exact step_reached (hran.blinker ▸ hb) hran.fits ih

theorem advance_levels (t : Nat) :
    (s.advance t).levels = s.levels ++ (List.range t).map fun i => (s.advance (i + 1)).level := by
  induction t with
  | zero => simp [advance]
  | succ t ih =>
    have hran := advance_ran hb hfit t
    obtain ⟨hrec, hrev, -⟩ := step_record (hran.blinker ▸ hb) hran.fits
    have hlast : (s.advance (t + 1)).levels = (s.advance t).levels ++ [(s.advance (t + 1)).level] := by
      rw [advance_succ, levels, levels, hrev, List.reverse_cons, hrec]
    rw [hlast, ih, List.range_succ, List.map_append, List.map_singleton, List.append_assoc]

theorem advance_initialLevel (t : Nat) : (s.advance t).initialLevel = s.initialLevel := by
  induction t with
  | zero => rfl
  | succ t ih =>
    have hran := advance_ran hb hfit t
    rw [advance_succ, (step_record (hran.blinker ▸ hb) hran.fits).2.2, ih]

end Run

/-! ### Configuration -/

/-- Configuring a fresh session reads and writes the clock and mode registers only. -/
theorem configure_bus (s : Session ω) (hu : s.blinker.phase = .uninitialized) :
    ∃ v1 v2 v3, s.configure.bus =
      ((((((s.bus.read s.target.clock.register.addr).2.write s.target.clock.register.addr v1).read
        s.target.mode.register.addr).2.write s.target.mode.register.addr v2).read
        s.target.mode.register.addr).2.write s.target.mode.register.addr v3) := by
  rw [configure_eq s hu]
  simp only [RegisterBus.setBits_eq, RegisterBus.clearBits_eq, Rig.read_fst, Rig.read_snd,
    Rig.write_eq]
  exact ⟨_, _, _, rfl⟩

theorem configure_target (s : Session ω) (hu : s.blinker.phase = .uninitialized) :
    s.configure.target = s.target := by
  simp [configure_eq s hu, target]

theorem configure_initialLevel (s : Session ω) (hu : s.blinker.phase = .uninitialized) :
    s.configure.initialLevel = s.initialLevel := by
  simp [configure_eq s hu]

section Configure

variable {s : Session ω} (hu : s.blinker.phase = .uninitialized) {b0 : Bus ω}
  (hr : Bus.Reached b0 s.bus)
include hu hr

theorem configure_reached : Bus.Reached b0 s.configure.bus := by
  obtain ⟨v1, v2, v3, h⟩ := configure_bus s hu
  rw [h]
  exact ((hr.modify _ _).modify _ _).modify _ _

/-- A configuration whose clock and mode registers are kept apart from the output register leaves
the LED's level. -/
theorem configure_level {j : Nat} {u0 : Window}
    (h0 : FirstHolding b0.windows s.target.output.register.addr j u0)
    (hb0 : u0.device.ReadsBack (s.target.output.register.addr - u0.base) s.target.output.pin)
    (hC : u0.Holds s.target.clock.register.addr → u0.device.Apart
      (s.target.clock.register.addr - u0.base) (s.target.output.register.addr - u0.base))
    (hM : u0.Holds s.target.mode.register.addr → u0.device.Apart
      (s.target.mode.register.addr - u0.base) (s.target.output.register.addr - u0.base)) :
    s.configure.level = s.level := by
  obtain ⟨v1, v2, v3, h⟩ := configure_bus s hu
  apply level_of_peek_eq (configure_target s hu)
  rw [h, ((hr.modify _ _).modify _ _).modify_apart h0 hb0 hM,
    (hr.modify _ _).modify_apart h0 hb0 hM, hr.modify_apart h0 hb0 hC]

end Configure

omit [Observer ω] in
theorem withBus_level {b : Bus ω} (hfit : b.Fits) (t : BlinkTarget) (c : SimConfig) :
    (withBus b t c).level = (withBus b t c).initialLevel := by
  let s0 : Session ω := ⟨⟨{ b with gating := c.clockGating }, c.nopCycles.toUInt64, 0⟩,
    Blinker.start { t with delayCount := c.delayFor t.delayCount }, c, false, []⟩
  obtain ⟨l, hl⟩ := probe_ledLevel (s := s0) hfit
  have h0 : s0.level = l := by rw [level, hl]
  have hw : withBus b t c = { s0 with initialLevel := l } := by
    simp only [withBus, s0, hl]
  have hsame : ({ s0 with initialLevel := l } : Session ω).level = s0.level :=
    level_of_peek_eq rfl rfl
  rw [hw, hsame, h0]

/-! ### The levels of a run -/

/-- A session as a profile gives it: not yet configured, on a searchable bus whose memories keep
their cells in order, showing the level it recorded, its three LED registers word-aligned. -/
structure Fresh (s : Session ω) : Prop where
  unconfigured : s.blinker.phase = .uninitialized
  fits : s.bus.Fits
  tidy : s.bus.Tidy
  shows : s.level = s.initialLevel
  clock : s.target.clock.register.addr % 4 = 0
  mode : s.target.mode.register.addr % 4 = 0
  output : s.target.output.register.addr % 4 = 0

omit [Observer ω] in
theorem fromProfile_fresh {p : Profile} {c : SimConfig} {watch : ω} {s : Session ω}
    (hs : fromProfile p c watch = .ok s) : s.Fresh := by
  obtain ⟨b, t, hb, ht, rfl⟩ := fromProfile_eq hs
  have hfit : b.Fits := Bus.fromProfile_fits hb
  have hlevel := withBus_level hfit t c
  obtain ⟨-, hC, hM, hO⟩ := Profile.target?_registers ht
  obtain ⟨a1, a2, a3⟩ := Profile.checkLed_aligned (Profile.validate_ok (Bus.fromProfile_ok hb).1).1
  obtain ⟨level, hw⟩ := withBus_eq hfit t c
  rw [hw] at hlevel ⊢
  exact ⟨rfl, hfit, fun w hw => Bus.fromProfile_tidy hb w hw, hlevel, hC ▸ a1, hM ▸ a2, hO ▸ a3⟩

/-- **Every step.** Steps of a blinking session whose output register's window reads the register
back: each of the first `T`, when the bus still runs after them, flips the level with no fault
logged, or keeps it and logs one. -/
theorem advance_flips {s : Session ω} (hb : s.blinker.phase = .blinking) (hfit : s.bus.Fits)
    {b0 : Bus ω} (hr : Bus.Reached b0 s.bus) {j : Nat} {u0 : Window}
    (h0 : FirstHolding b0.windows s.target.output.register.addr j u0)
    (hb0 : u0.device.ReadsBack (s.target.output.register.addr - u0.base) s.target.output.pin)
    (ha : s.target.output.register.addr % 4 = 0) {T : Nat}
    (hrun : (s.advance T).bus.halted = none) (i : Nat) (hi : i < T) :
    ((s.advance (i + 1)).level = !(s.advance i).level ∧
        (s.advance (i + 1)).bus.faults = (s.advance i).bus.faults) ∨
      ((s.advance (i + 1)).level = (s.advance i).level ∧
        ∃ f, (s.advance (i + 1)).bus.faults = (s.advance i).bus.faults ++ [f]) := by
  have hran := advance_ran hb hfit i
  have ht : (s.advance i).target = s.target := congrArg Blinker.target hran.blinker
  obtain ⟨u, he, -⟩ := (advance_reached hb hfit hr i).echo h0 hb0
  have hrun' := advance_running hb hfit (Nat.succ_le_of_lt hi) hrun
  rw [advance_succ] at hrun' ⊢
  rw [← ht] at he ha
  exact step_flips (hran.blinker ▸ hb) hran.fits he ha hrun'

omit [Observer ω] in
/-- Levels that flip at each step logging no fault and stay at each step logging one. When the
log ends empty every step flips, and when every step logs a fault the level never moves. -/
theorem flips_of_steps (ℓ : Nat → Bool) (φ : Nat → List Fault) {T : Nat}
    (h : ∀ i < T, (ℓ (i + 1) = !ℓ i ∧ φ (i + 1) = φ i) ∨
      (ℓ (i + 1) = ℓ i ∧ ∃ f, φ (i + 1) = φ i ++ [f])) :
    (φ T = [] → ∀ i ≤ T, ℓ i = if i % 2 = 0 then ℓ 0 else !ℓ 0) ∧
      ((∀ i < T, φ (i + 1) ≠ φ i) → ∀ i ≤ T, ℓ i = ℓ 0) := by
  have hstep : ∀ i < T, (φ i).length ≤ (φ (i + 1)).length := by
    intro i hi
    rcases h i hi with ⟨-, he⟩ | ⟨-, f, he⟩ <;> simp [he]
  have hgrow : ∀ k i, i + k ≤ T → (φ i).length ≤ (φ (i + k)).length := by
    intro k
    induction k with
    | zero => exact fun i _ => Nat.le_refl _
    | succ k ih => exact fun i hik => Nat.le_trans (ih i (by omega)) (hstep (i + k) (by omega))
  constructor
  · intro hT i hi
    have hnil : ∀ k ≤ T, φ k = [] := fun k hk => by
      have := hgrow (T - k) k (by omega)
      rw [Nat.add_sub_cancel' hk, hT] at this
      exact List.eq_nil_of_length_eq_zero (by simpa using this)
    induction i with
    | zero => simp
    | succ i ih =>
      have hflip : ℓ (i + 1) = !ℓ i := by
        rcases h i (by omega) with ⟨hl, -⟩ | ⟨-, f, hf⟩
        · exact hl
        · rw [hnil (i + 1) hi, hnil i (by omega)] at hf
          cases hf
      rw [hflip, ih (by omega)]
      by_cases h2 : i % 2 = 0
      · have h2' : ¬ (i + 1) % 2 = 0 := by omega
        simp [h2, h2']
      · have h2' : (i + 1) % 2 = 0 := by omega
        simp [h2, h2']
  · intro hall i hi
    induction i with
    | zero => rfl
    | succ i ih =>
      rcases h i (by omega) with ⟨-, hf⟩ | ⟨hl, -⟩
      · exact absurd hf (hall i (by omega))
      · rw [hl, ih (by omega)]

omit [Observer ω] in
theorem recorded_of_steps (ℓ : Nat → Bool) (φ : Nat → List Fault) {T : Nat}
    (h : ∀ i < T, (ℓ (i + 1) = !ℓ i ∧ φ (i + 1) = φ i) ∨
      (ℓ (i + 1) = ℓ i ∧ ∃ f, φ (i + 1) = φ i ++ [f])) :
    let l := (List.range T).map fun i => ℓ (i + 1)
    (∀ i < T, l[i]? ≠ (ℓ 0 :: l)[i]? ↔ φ (i + 1) = φ i) ∧
      (φ T = [] → l = (List.range T).map fun i => if i % 2 = 0 then !ℓ 0 else ℓ 0) ∧
      ((∀ i < T, φ (i + 1) ≠ φ i) → l = List.replicate T (ℓ 0)) ∧
      (ℓ 0 :: l).getLast (List.cons_ne_nil _ _) = ℓ T := by
  intro l
  obtain ⟨halt, hconst⟩ := flips_of_steps ℓ φ h
  have hall : ℓ 0 :: l = (List.range (T + 1)).map ℓ := by
    rw [List.range_succ_eq_map, List.map_cons, List.map_map]
    rfl
  refine ⟨fun i hi => ?_, fun hnil => ?_, fun hfault => ?_, ?_⟩
  · -- a step moves the level exactly when it logs no fault
    have hnow : (ℓ 0 :: l)[i]? = some (ℓ i) := by
      rw [hall, List.getElem?_map, List.getElem?_range (by omega)]
      rfl
    have hnext : l[i]? = some (ℓ (i + 1)) := by
      rw [List.getElem?_map, List.getElem?_range hi]
      rfl
    rw [hnow, hnext]
    rcases h i hi with ⟨hl, he⟩ | ⟨hl, f, he⟩
    · simp [hl, he]
    · simp [hl, he]
  · apply List.map_congr_left
    intro i hi
    rw [List.mem_range] at hi
    rw [halt hnil (i + 1) hi]
    by_cases h2 : i % 2 = 0
    · have h2' : ¬ (i + 1) % 2 = 0 := by omega
      simp [h2, h2']
    · have h2' : (i + 1) % 2 = 0 := by omega
      simp [h2, h2']
  · rw [List.eq_replicate_iff]
    refine ⟨by simp [l], fun b hb => ?_⟩
    obtain ⟨i, hi, rfl⟩ := List.mem_map.mp hb
    exact hconst hfault (i + 1) (List.mem_range.mp hi)
  · simp only [hall, List.getLast_map, List.getLast_range, Nat.add_sub_cancel]

/-- A run of a session a profile gives: `T` steps after the configuration, the summary recording
the level each step leaves, the log and the pin of the session the steps leave, and the level
before configuration. -/
theorem run_summary {p : Profile} {c : SimConfig} {watch : ω} {s : Session ω}
    (hs : fromProfile p c watch = .ok s) (N : Nat) :
    ∃ T ≤ N, (s.run N).2 = s.configure.advance T ∧
      (s.run N).1.levels = (List.range T).map (fun i => (s.configure.advance (i + 1)).level) ∧
      (s.run N).1.faults = (s.configure.advance T).bus.faults ∧
      (s.run N).1.initialLevel = s.initialLevel ∧
      (s.configure.advance T).ledPin = .ok (s.run N).1.ledPin := by
  have hc := configure_fromProfile hs
  have hu := (fromProfile_fresh hs).unconfigured
  obtain ⟨T, hT, hrun, -, -⟩ := run_eq s N
  have hran := advance_ran hc.blinking hc.fits T
  obtain ⟨pin, hpin, hfin⟩ := finish_eq hran.fits
    (if (s.configure.advance T).Stops then .fault else .toggleLimit)
  rw [hrun, hfin]
  dsimp only
  refine ⟨T, hT, rfl, ?_, rfl, ?_, hpin⟩
  · rw [advance_levels hc.blinking hc.fits, levels, hc.levels]
    rfl
  · rw [advance_initialLevel hc.blinking hc.fits, configure_initialLevel s hu]

/-- A run of a session a profile gives ends with the bus running when the cycle and iteration
counters have room for every toggle asked. -/
theorem run_running {p : Profile} {c : SimConfig} {watch : ω} {s : Session ω}
    (hs : fromProfile p c watch = .ok s) (N : Nat)
    (hcyc : 6 + N * (2 + c.nopCycles.toNat * (c.delayFor p.delayCount).toNat) < 2 ^ 64)
    (hit : N * (c.delayFor p.delayCount).toNat < 2 ^ 64) : (s.run N).2.bus.halted = none := by
  have hc := configure_fromProfile hs
  obtain ⟨T, hT, hstate, -⟩ := run_summary hs N
  have hran := advance_ran hc.blinking hc.fits T
  rw [hstate]
  -- `T` steps cost at most what `N` would
  have hle := Nat.mul_le_mul_right (2 + c.nopCycles.toNat * (c.delayFor p.delayCount).toNat) hT
  have hle' := Nat.mul_le_mul_right (c.delayFor p.delayCount).toNat hT
  refine hran.room hc.running ?_ ?_
  · rw [hc.cycle, hc.nopCycles, hc.delay, UInt32.toNat_toUInt64]
    simp only [UInt64.reduceToNat]
    omega
  · rw [hc.iterations, hc.delay]
    simp only [UInt64.reduceToNat]
    omega

/-- **The levels of a run follow its faults.** Take a session a profile gives whose output
register's window reads the register back, and a run of it that ends with the bus running. Put
the level right after configuration before the recorded levels: each step moves the level exactly
when it logs no fault. So a run with no faults alternates from the configured level, a run in
which every step logs a fault keeps it, the pin the summary reports shows the last level, and when
the clock and mode registers spare the output register the configured level is the initial one. -/
theorem levels_follow_faults {p : Profile} {c : SimConfig} {watch : ω} {s : Session ω}
    (hs : fromProfile p c watch = .ok s)
    (hback : s.bus.ReadsBack s.target.output.register.addr s.target.output.pin)
    (N : Nat) (hrun : (s.run N).2.bus.halted = none) :
    let r := (s.run N).1
    ∃ lc, s.configure.ledLevel = .ok lc ∧
      (∀ i < r.levels.length, r.levels[i]? ≠ (lc :: r.levels)[i]? ↔
        (s.configure.advance (i + 1)).bus.faults = (s.configure.advance i).bus.faults) ∧
      (r.faults = [] →
        r.levels = (List.range r.levels.length).map fun i => if i % 2 = 0 then !lc else lc) ∧
      ((∀ i < r.levels.length,
          (s.configure.advance (i + 1)).bus.faults ≠ (s.configure.advance i).bus.faults) →
        r.levels = List.replicate r.levels.length lc) ∧
      (∀ ps, r.ledPin = some ps → ps.level = (lc :: r.levels).getLast (List.cons_ne_nil _ _)) ∧
      (s.bus.Spares s.target.clock.register.addr s.target.output.register.addr →
        s.bus.Spares s.target.mode.register.addr s.target.output.register.addr →
        lc = r.initialLevel) := by
  dsimp only
  have hf := fromProfile_fresh hs
  have hc := configure_fromProfile hs
  obtain ⟨T, -, hstate, hlevels, hfaults, hinit, hpin⟩ := run_summary hs N
  rw [hstate] at hrun
  have hT : (s.run N).1.levels.length = T := by simp [hlevels]
  obtain ⟨j, u0, h0, hb0⟩ := hback
  have hr0 : Bus.Reached s.bus s.bus := ⟨rfl, hf.fits, hf.tidy⟩
  have hr1 := configure_reached hf.unconfigured hr0
  have ht1 := configure_target s hf.unconfigured
  have hO := hf.output
  rw [← ht1] at h0 hb0 hO
  have hsteps := advance_flips hc.blinking hc.fits hr1 h0 hb0 hO hrun
  obtain ⟨hmoves, halt, hconst, hlast⟩ := recorded_of_steps (fun i => (s.configure.advance i).level)
    (fun i => (s.configure.advance i).bus.faults) hsteps
  rw [hT, hlevels]
  refine ⟨s.configure.level, ledLevel_level hc.fits, hmoves, fun hnil => halt (hfaults ▸ hnil),
    hconst, ?_, ?_⟩
  · -- the pin is read where the last step left the bus
    intro ps hps
    rw [hps] at hpin
    have hran := advance_ran hc.blinking hc.fits T
    have htT : (s.configure.advance T).target = s.configure.target :=
      congrArg Blinker.target hran.blinker
    obtain ⟨u, he, -⟩ := (advance_reached hc.blinking hc.fits hr1 T).echo h0 hb0
    rw [← htT] at he
    rw [ledPin_level hran.fits he hpin]
    exact hlast.symm
  · -- configuring sets the clock and the mode, which spare the output register
    intro hsC hsM
    rw [hinit, ← hf.shows]
    rw [ht1] at h0 hb0 hO
    exact configure_level hf.unconfigured hr0 h0 hb0 (hsC.apart h0 hO hf.clock)
      (hsM.apart h0 hO hf.mode)

omit [Observer ω] in
/-- Every session the Blue Pill gives reads its LED's output register back: the register is the
output data register of port C, on pin 13. -/
theorem bluepill_readsBack {c : SimConfig} {watch : ω} {s : Session ω}
    (hs : fromProfile Profile.bluepill c watch = .ok s) :
    s.bus.ReadsBack s.target.output.register.addr s.target.output.pin := by
  obtain ⟨b, t, hb, ht, rfl⟩ := fromProfile_eq hs
  obtain ⟨-, -, -, hO⟩ := Profile.target?_registers ht
  have hpin : t.output.pin = 13 := by
    have h := congrArg (Option.map fun t => t.output.pin) ht
    exact (Option.some.inj h).symm
  have hq : Profile.gpioWindow "gpioc" "stm32f1" 0x40011000 [] ⟨0x40021018, 4⟩ ∈
      Profile.bluepill.peripherals := List.mem_cons_of_mem _ List.mem_cons_self
  have hsize : (Profile.gpioWindow "gpioc" "stm32f1" 0x40011000 [] ⟨0x40021018, 4⟩).windowSize =
      .ok 0x400 := by
    decide +kernel
  have hholds : (Profile.gpioWindow "gpioc" "stm32f1" 0x40011000 [] ⟨0x40021018, 4⟩).contains
      0x4001100C 0x400 = true := by
    decide
  obtain ⟨i, w, hf, hw⟩ := Bus.fromProfile_firstHolding hb hq hsize hholds
  obtain ⟨-, -, hbase, -, d, hbuild, hpre⟩ := Bus.windowOf_ok hw
  have hd : d = .gpio (Gpio.init .f1) := by
    have hl : GpioLayout.parse "stm32f1" = .ok .f1 := by decide +kernel
    have h : Device.build "gpio" (some "stm32f1") w.size = .ok (.gpio (Gpio.init .f1)) := by
      simp [Device.build, hl]
    exact Except.ok.inj (hbuild.symm.trans h)
  have hdev : w.device = .gpio (Gpio.init .f1) := by
    rw [hd] at hpre
    exact (Prod.mk.inj hpre).1.symm
  obtain ⟨level, hw⟩ := withBus_eq (Bus.fromProfile_fits hb) t c
  rw [hw]
  refine ⟨i, w, ?_, ?_⟩
  · show FirstHolding b.windows t.output.register.addr i w
    rw [hO]
    exact hf
  · show w.device.ReadsBack (t.output.register.addr - w.base) t.output.pin
    rw [hdev, hO, hbase, hpin]
    exact ⟨by decide, by decide⟩

/-- The Blue Pill's default session, run for three toggles: its levels follow its faults. -/
theorem levels_follow_faults_bluepill :
    ∃ s, fromProfile Profile.bluepill SimConfig.default () = .ok s ∧
      s.bus.ReadsBack s.target.output.register.addr s.target.output.pin ∧
      (s.run 3).2.bus.halted = none ∧
      let r := (s.run 3).1
      ∃ lc, s.configure.ledLevel = .ok lc ∧
        (∀ i < r.levels.length, r.levels[i]? ≠ (lc :: r.levels)[i]? ↔
          (s.configure.advance (i + 1)).bus.faults = (s.configure.advance i).bus.faults) ∧
        (r.faults = [] →
          r.levels = (List.range r.levels.length).map fun i => if i % 2 = 0 then !lc else lc) ∧
        ((∀ i < r.levels.length,
            (s.configure.advance (i + 1)).bus.faults ≠ (s.configure.advance i).bus.faults) →
          r.levels = List.replicate r.levels.length lc) ∧
        (∀ ps, r.ledPin = some ps → ps.level = (lc :: r.levels).getLast (List.cons_ne_nil _ _)) ∧
        (s.bus.Spares s.target.clock.register.addr s.target.output.register.addr →
          s.bus.Spares s.target.mode.register.addr s.target.output.register.addr →
          lc = r.initialLevel) := by
  obtain ⟨s, hs⟩ := fromProfile_bluepill SimConfig.default ()
  have hback := bluepill_readsBack hs
  have hrun := run_running hs 3 (by decide) (by decide)
  exact ⟨s, hs, hback, hrun, levels_follow_faults hs hback 3 hrun⟩

end Session

end Heartbeat
