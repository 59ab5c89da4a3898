import Heartbeat.Proofs.Run

/-!
# A heartbeat whose clock is wired right never faults

A profile may gate the LED's GPIO port by a clock-enable bit. When that bit is the LED's own clock
bit, in an ungated RCC window at one of the block's enable registers, the blink loop never
faults: configuration sets the clock bit before it touches the port, the RCC block stores it,
and nothing written afterwards lands in the RCC window, since validation keeps windows apart and
the port's windows are GPIO windows. So every gated write finds its gate open, and every other
access is served by a model that takes any offset.

* `Bus.Wired`, `Bus.ClockOn`, `Bus.Clocked` : the LED's registers on a bus, the clock bit set,
  and both together while the bus runs: the invariant of the loop;
* `Bus.read_clocked`, `Bus.write_pin_clocked`, `Bus.write_clock_clocked` : what each access of
  the loop keeps or makes;
* `Profile.ClockInRcc`, `Profile.PinsGated`, `Bus.wired_fromProfile` : a profile wired right,
  and its bus wired for its heartbeat;
* `Session.configure_clocked`, `Session.advance_clocked` : configuration clocks the bus, and every
  step keeps it clocked;
* `Session.run_fault_free` : a run logs no fault and makes all its toggles.
-/

namespace Heartbeat

namespace Rcc

theorem setAt_keys (off v : UInt32) :
    ∀ l : List (UInt32 × UInt32), (setAt off v l).map Prod.fst = l.map Prod.fst
  | [] => rfl
  | e :: rest => by
    unfold setAt
    split
    · simp [*]
    · simp [setAt_keys off v rest]

theorem find?_setAt_self {off : UInt32} (v : UInt32) :
    ∀ {l : List (UInt32 × UInt32)}, off ∈ l.map Prod.fst →
      (setAt off v l).find? (·.1 == off) = some (off, v)
  | [], h => by simp at h
  | e :: rest, h => by
    unfold setAt
    by_cases he : e.1 = off
    · simp [he]
    · have hrest : off ∈ rest.map Prod.fst := by
        simp only [List.map_cons, List.mem_cons] at h
        exact h.resolve_left (Ne.symm he)
      simp [he, find?_setAt_self v hrest]

theorem write_keys (r : Rcc) (off v : UInt32) :
    (r.write off v).enable.map Prod.fst = r.enable.map Prod.fst :=
  setAt_keys off v r.enable

theorem read_write_self {r : Rcc} {off : UInt32} (h : off ∈ r.enable.map Prod.fst) (v : UInt32) :
    (r.write off v).read off = v := by
  simp [read, write, find?_setAt_self v h]

theorem init_keys (l : RccLayout) : (init l).enable.map Prod.fst = l.enableOffsets := by
  simp [init, Function.comp_def]

end Rcc

namespace Device

theorem presetAll_gpio :
    ∀ {g : Gpio} {rv : List (UInt32 × UInt32)} {d : Device} {f : Option Fault},
      presetAll (.gpio g) rv = (d, f) → ∃ g', d = .gpio g'
  | g, [], d, f, h => by
    simp only [presetAll, Prod.mk.injEq] at h
    exact ⟨g, h.1.symm⟩
  | g, (off, v) :: rest, d, f, h => by
    simp only [presetAll, preset] at h
    exact presetAll_gpio h

theorem presetAll_rcc :
    ∀ {r : Rcc} {rv : List (UInt32 × UInt32)} {d : Device} {f : Option Fault},
      presetAll (.rcc r) rv = (d, f) →
        ∃ r', d = .rcc r' ∧ r'.enable.map Prod.fst = r.enable.map Prod.fst
  | r, [], d, f, h => by
    simp only [presetAll, Prod.mk.injEq] at h
    exact ⟨r, h.1.symm, rfl⟩
  | r, (off, v) :: rest, d, f, h => by
    simp only [presetAll, preset, write] at h
    obtain ⟨r', hd, hkeys⟩ := presetAll_rcc h
    exact ⟨r', hd, hkeys.trans (Rcc.write_keys r off v)⟩

theorem build_gpio {layout : Option String} {size : UInt64} {d : Device}
    (h : build "gpio" layout size = .ok d) : ∃ g, d = .gpio g := by
  unfold build at h
  simp only [if_true] at h
  split at h
  · exact ⟨_, (Except.ok.inj h).symm⟩
  · split at h
    · exact ⟨_, (Except.ok.inj h).symm⟩
    · cases h

/-- A model taking another's place in a window as a write leaves it: a GPIO port for a GPIO port,
an RCC block for one with the same enable registers, a memory for a memory. -/
def SameKind : Device → Device → Prop
  | .gpio _, .gpio _ => True
  | .rcc r, .rcc r' => r'.enable.map Prod.fst = r.enable.map Prod.fst
  | .memory _, .memory _ => True
  | _, _ => False

theorem write_sameKind {d d' : Device} {off v : UInt32} (h : d.write off v = .ok d') :
    d.SameKind d' := by
  cases d with
  | gpio g =>
    cases h
    trivial
  | rcc r =>
    cases h
    exact Rcc.write_keys r off v
  | memory m =>
    simp only [write] at h
    cases hm : m.write off v with
    | error e => simp [hm, Except.map] at h
    | ok m' =>
      simp only [hm, Except.map, Except.ok.injEq] at h
      subst h
      trivial

end Device

/-- The first window holding an address is still the first after one window takes a new model;
it is that window, with its new model, when it is the one replaced. -/
theorem FirstHolding.set {ws : List Window} {a : UInt32} {k i : Nat} {u w : Window} {d : Device}
    (hk : FirstHolding ws a k u) (hi : ws[i]? = some w) :
    FirstHolding (ws.set i { w with device := d }) a k
      (if i = k then { w with device := d } else u) := by
  obtain ⟨hku, hua, hbefore⟩ := hk
  refine ⟨?_, ?_, fun v hv => ?_⟩
  · rw [List.getElem?_set]
    split
    · have hilt : i < ws.length := (List.getElem?_eq_some_iff.mp hi).1
      simp [hilt]
    · exact hku
  · split
    · rename_i hik
      subst hik
      rw [hi, Option.some.injEq] at hku
      subst hku
      exact hua
    · exact hua
  · rw [List.take_set] at hv
    by_cases hik : i < k
    · rcases List.mem_or_eq_of_mem_set hv with hv | rfl
      · exact hbefore v hv
      · have hw : w ∈ ws.take k := by
          rw [List.mem_iff_getElem?]
          exact ⟨i, by rw [List.getElem?_take, if_pos hik, hi]⟩
        exact hbefore w hw
    · rw [List.set_eq_of_length_le (by simp; omega)] at hv
      exact hbefore v hv

theorem FirstHolding.set_self {ws : List Window} {a : UInt32} {k : Nat} {u : Window}
    (hk : FirstHolding ws a k u) (d : Device) :
    FirstHolding (ws.set k { u with device := d }) a k { u with device := d } := by
  have hset := hk.set hk.1 (d := d)
  rwa [if_pos rfl] at hset

theorem FirstHolding.set_ne {ws : List Window} {a : UInt32} {k i : Nat} {u w : Window}
    (hk : FirstHolding ws a k u) (hi : ws[i]? = some w) (hik : i ≠ k) (d : Device) :
    FirstHolding (ws.set i { w with device := d }) a k u := by
  have hset := hk.set hi (d := d)
  rwa [if_neg hik] at hset

theorem or_and_mask (x m : UInt32) : (x ||| m) &&& m = m := by
  apply UInt32.toBitVec_inj.mp
  ext i
  simp +contextual

namespace Bus

variable {ω : Type} {b : Bus ω}

theorem peek_of_firstHolding (hfit : b.Fits) {a : UInt32} {j : Nat} {w : Window}
    (hf : FirstHolding b.windows a j w) :
    b.peek a = .ok (w.device.read (a - w.base)).toOption := by
  cases hx : w.device.read (a - w.base) <;> simp [peek, locate_first hfit hf, hx, Except.toOption]

/-! ### The LED's registers on a bus -/

variable {k : BlinkTarget}

/-- The LED's registers as a working board has them: each aligned; the clock register in an
ungated RCC window, at one of the block's enable registers; the mode and output registers in GPIO
windows gated by nothing but the LED's own clock bit. The windows can be searched and no fault has
been logged. -/
structure Wired (b : Bus ω) (k : BlinkTarget) : Prop where
  fits : b.Fits
  clean : b.faultLog = []
  aligned : ∀ a ∈ [k.clock.register.addr, k.mode.register.addr, k.output.register.addr],
    a % 4 = 0
  clock : ∃ j w r, FirstHolding b.windows k.clock.register.addr j w ∧ w.gate = none ∧
    w.device = .rcc r ∧ k.clock.register.addr - w.base ∈ r.enable.map Prod.fst
  pin : ∀ a ∈ [k.mode.register.addr, k.output.register.addr], ∃ i w g,
    FirstHolding b.windows a i w ∧ w.device = .gpio g ∧ (w.gate = none ∨ w.gate = some k.clock)

/-- The LED's clock bits read set in the window holding its enable register. -/
def ClockOn (b : Bus ω) (k : BlinkTarget) : Prop :=
  ∃ j w r, FirstHolding b.windows k.clock.register.addr j w ∧ w.device = .rcc r ∧
    r.read (k.clock.register.addr - w.base) &&& k.clock.mask = k.clock.mask

/-- A wired bus with the LED's clock on whenever the bus runs: the invariant of the blink loop. -/
structure Clocked (b : Bus ω) (k : BlinkTarget) : Prop where
  wired : b.Wired k
  clockOn : b.halted = none → b.ClockOn k

theorem ClockOn.gateOpen (hfit : b.Fits) (h : b.ClockOn k) : b.GateOpen k.clock := by
  obtain ⟨j, w, r, hf, hd, hm⟩ := h
  exact ⟨_, by simp [peek_of_firstHolding hfit hf, hd, Device.read, Except.toOption], hm⟩

/-- A window gated by nothing or by the LED's clock takes writes while that clock is on. -/
theorem Wired.not_blocked {w : Window} (hw : b.Wired k) (hon : b.gating = true → b.ClockOn k)
    (hg : w.gate = none ∨ w.gate = some k.clock) : ¬ b.Blocked w := by
  rintro ⟨hgating, g, hwg, hclosed⟩
  rcases hg with hg | hg
  · rw [hg] at hwg
    cases hwg
  · rw [hg, Option.some.injEq] at hwg
    subst hwg
    exact hclosed ((hon hgating).gateOpen hw.fits)

theorem Wired.served (hw : b.Wired k) {a : UInt32}
    (ha : a ∈ [k.clock.register.addr, k.mode.register.addr, k.output.register.addr]) :
    ∃ i w x, FirstHolding b.windows a i w ∧ w.device.read (a - w.base) = .ok x := by
  rcases List.mem_cons.mp ha with rfl | ha
  · obtain ⟨j, w, r, hf, -, hd, -⟩ := hw.clock
    exact ⟨j, w, _, hf, by rw [hd]; rfl⟩
  · obtain ⟨i, w, g, hf, hd, -⟩ := hw.pin a ha
    exact ⟨i, w, _, hf, by rw [hd]; rfl⟩

theorem Wired.frame {b' : Bus ω} (hw : b.Wired k) (hwin : b'.windows = b.windows)
    (hlog : b'.faultLog = b.faultLog) : b'.Wired k where
  fits := by
    unfold Fits
    rw [hwin]
    exact hw.fits
  clean := hlog.trans hw.clean
  aligned := hw.aligned
  clock := by
    rw [hwin]
    exact hw.clock
  pin := by
    rw [hwin]
    exact hw.pin

theorem Wired.delay (hw : b.Wired k) (d : UInt32) : b.Wired { k with delayCount := d } :=
  ⟨hw.fits, hw.clean, hw.aligned, hw.clock, hw.pin⟩

theorem ClockOn.frame {b' : Bus ω} (h : b.ClockOn k) (hwin : b'.windows = b.windows) :
    b'.ClockOn k := by
  unfold ClockOn
  rw [hwin]
  exact h

section Replace

variable {b' : Bus ω} {i : Nat} {w : Window} (hi : b.windows[i]? = some w)
include hi

/-- One window's model replaced by one of its kind keeps the LED's registers as they were. -/
theorem Wired.set (hw : b.Wired k) {d : Device} (hd : w.device.SameKind d)
    (hwin : b'.windows = b.windows.set i { w with device := d })
    (hlog : b'.faultLog = b.faultLog) : b'.Wired k where
  fits := by
    unfold Fits
    rw [hwin]
    exact Reshaped.fits (.inr ⟨i, w, d, hi, rfl⟩) hw.fits
  clean := hlog.trans hw.clean
  aligned := hw.aligned
  clock := by
    obtain ⟨j, u, r, hf, hg, hu, hkey⟩ := hw.clock
    rw [hwin]
    by_cases hij : i = j
    · -- the clock window itself: its model is still an RCC block with the same registers
      subst hij
      obtain rfl : w = u := Option.some.inj (hi.symm.trans hf.1)
      rw [hu] at hd
      cases d with
      | rcc r' => exact ⟨i, _, r', hf.set_self _, hg, rfl, by rw [hd]; exact hkey⟩
      | gpio _ => exact hd.elim
      | memory _ => exact hd.elim
    · exact ⟨j, u, r, hf.set_ne hi hij _, hg, hu, hkey⟩
  pin := by
    intro a ha
    obtain ⟨j, u, g, hf, hu, hg⟩ := hw.pin a ha
    rw [hwin]
    by_cases hij : i = j
    · subst hij
      obtain rfl : w = u := Option.some.inj (hi.symm.trans hf.1)
      rw [hu] at hd
      cases d with
      | gpio g' => exact ⟨i, _, g', hf.set_self _, rfl, hg⟩
      | rcc _ => exact hd.elim
      | memory _ => exact hd.elim
    · exact ⟨j, u, g, hf.set_ne hi hij _, hu, hg⟩

theorem ClockOn.set (h : b.ClockOn k) {g : Gpio} (hg : w.device = .gpio g) {d : Device}
    (hwin : b'.windows = b.windows.set i { w with device := d }) : b'.ClockOn k := by
  obtain ⟨j, u, r, hf, hu, hm⟩ := h
  have hij : i ≠ j := by
    rintro rfl
    obtain rfl : w = u := Option.some.inj (hi.symm.trans hf.1)
    rw [hg] at hu
    cases hu
  rw [ClockOn, hwin]
  exact ⟨j, u, r, hf.set_ne hi hij _, hu, hm⟩

end Replace

theorem Clocked.frame {b' : Bus ω} (hc : b.Clocked k) (hwin : b'.windows = b.windows)
    (hlog : b'.faultLog = b.faultLog) (hh : b'.halted = none → b.halted = none) :
    b'.Clocked k :=
  ⟨hc.wired.frame hwin hlog, fun h => (hc.clockOn (hh h)).frame hwin⟩

variable [Observer ω]

/-- A read served by its window changes no window and logs nothing, whether or not the bus runs. -/
theorem read_served (hfit : b.Fits) {a : UInt32} (ha : a % 4 = 0) {i : Nat} {w : Window} {x : UInt32}
    (hf : FirstHolding b.windows a i w) (hx : w.device.read (a - w.base) = .ok x) :
    (b.read a).2.windows = b.windows ∧ (b.read a).2.faultLog = b.faultLog := by
  by_cases hh : b.halted = none
  · by_cases hc : b.cycle = 0xFFFFFFFFFFFFFFFF
    · rw [read_of_cycle_max hh hc]
      exact ⟨rfl, rfl⟩
    · have hspec := read_spec hfit hh hc a
      refine ⟨hspec.frame, ?_⟩
      have := (hspec.served i w x ha hf hx).2
      simpa [faults] using this
  · rw [read_of_halted hh]
    exact ⟨rfl, rfl⟩

/-- A write its window takes logs nothing; it changes that window's model when the bus runs on,
and nothing when the bus is halted. -/
theorem write_stored (hfit : b.Fits) {a v : UInt32} (ha : a % 4 = 0) {i : Nat} {w : Window}
    {d : Device} (hf : FirstHolding b.windows a i w) (hd : w.device.write (a - w.base) v = .ok d)
    (hb : b.halted = none → ¬ b.Blocked w) :
    (b.write a v).faultLog = b.faultLog ∧
      ((b.write a v).halted ≠ none ∧ (b.write a v).windows = b.windows ∨
        (b.write a v).halted = none ∧
          (b.write a v).windows = b.windows.set i { w with device := d }) := by
  by_cases hh : b.halted = none
  · by_cases hc : b.cycle = 0xFFFFFFFFFFFFFFFF
    · rw [write_of_cycle_max hh hc]
      exact ⟨rfl, .inl ⟨by simp [halt], rfl⟩⟩
    · have hspec := write_spec hfit hh hc a v
      obtain ⟨hwin, hlog⟩ := hspec.stored i w d ha hf (hb hh) hd
      exact ⟨by simpa [faults] using hlog, .inr ⟨hspec.running, hwin⟩⟩
  · rw [write_of_halted hh]
    exact ⟨rfl, .inl ⟨hh, rfl⟩⟩

theorem read_wired (hw : b.Wired k) {a : UInt32}
    (ha : a ∈ [k.clock.register.addr, k.mode.register.addr, k.output.register.addr]) :
    (b.read a).2.windows = b.windows ∧ (b.read a).2.faultLog = b.faultLog := by
  obtain ⟨i, w, x, hf, hx⟩ := hw.served ha
  exact read_served hw.fits (hw.aligned a ha) hf hx

theorem read_clocked (hc : b.Clocked k) {a : UInt32}
    (ha : a ∈ [k.clock.register.addr, k.mode.register.addr, k.output.register.addr]) :
    (b.read a).2.Clocked k :=
  have hr := read_wired hc.wired ha
  hc.frame hr.1 hr.2 fun h => ((read_ticks hc.wired.fits a).running.mp h).1

/-- A write to the mode or output register of a clocked bus lands in its GPIO window, whose gate
is open: the bus stays clocked. -/
theorem write_pin_clocked (hc : b.Clocked k) {a : UInt32}
    (ha : a ∈ [k.mode.register.addr, k.output.register.addr]) (v : UInt32) :
    (b.write a v).Clocked k := by
  obtain ⟨i, w, g, hf, hd, hg⟩ := hc.wired.pin a ha
  have hal := hc.wired.aligned a (List.mem_cons_of_mem _ ha)
  have hwr : w.device.write (a - w.base) v = .ok (.gpio (g.write (a - w.base) v)) := by
    rw [hd]
    rfl
  have hnb : b.halted = none → ¬ b.Blocked w :=
    fun hh => hc.wired.not_blocked (fun _ => hc.clockOn hh) hg
  obtain ⟨hlog, ⟨hh, hwin⟩ | ⟨-, hwin⟩⟩ := write_stored hc.wired.fits hal hf hwr hnb
  · exact ⟨hc.wired.frame hwin hlog, fun h => absurd h hh⟩
  · refine ⟨hc.wired.set hf.1 (Device.write_sameKind hwr) hwin hlog, fun h => ?_⟩
    have hrun := ((write_ticks hc.wired.fits a v).running.mp h).1
    exact (hc.clockOn hrun).set hf.1 hd hwin

/-- A write to the clock register of a wired bus that sets the LED's clock bits lands in the
ungated RCC window and is stored there: the bus is clocked from then on. -/
theorem write_clock_clocked (hw : b.Wired k) {v : UInt32} (hv : v &&& k.clock.mask = k.clock.mask) :
    (b.write k.clock.register.addr v).Clocked k := by
  obtain ⟨j, u, r, hf, hg, hd, hkey⟩ := hw.clock
  have hal := hw.aligned k.clock.register.addr List.mem_cons_self
  have hwr : u.device.write (k.clock.register.addr - u.base) v =
      .ok (.rcc (r.write (k.clock.register.addr - u.base) v)) := by
    rw [hd]
    rfl
  have hnb : b.halted = none → ¬ b.Blocked u := by
    rintro - ⟨-, g, hug, -⟩
    rw [hg] at hug
    cases hug
  obtain ⟨hlog, ⟨hh, hwin⟩ | ⟨-, hwin⟩⟩ := write_stored hw.fits hal hf hwr hnb
  · exact ⟨hw.frame hwin hlog, fun h => absurd h hh⟩
  · let r' := r.write (k.clock.register.addr - u.base) v
    refine ⟨hw.set hf.1 (Device.write_sameKind hwr) hwin hlog,
      fun _ => ⟨j, { u with device := .rcc r' }, r', ?_, rfl, ?_⟩⟩
    · rw [hwin]
      exact hf.set_self _
    · rw [Rcc.read_write_self hkey]
      exact hv

theorem modify_pin_clocked (hc : b.Clocked k) {a : UInt32}
    (ha : a ∈ [k.mode.register.addr, k.output.register.addr]) (v : UInt32) :
    ((b.read a).2.write a v).Clocked k :=
  write_pin_clocked (read_clocked hc (List.mem_cons_of_mem _ ha)) ha _

theorem modify_clock_clocked (hw : b.Wired k) :
    ((b.read k.clock.register.addr).2.write k.clock.register.addr
      ((b.read k.clock.register.addr).1 ||| k.clock.mask)).Clocked k :=
  have hr := read_wired hw List.mem_cons_self
  write_clock_clocked (hw.frame hr.1 hr.2) (or_and_mask _ _)

end Bus

namespace Profile

/-- The LED's clock register is one of the enable registers of an ungated RCC window. -/
def ClockInRcc (p : Profile) : Prop :=
  ∃ q ∈ p.peripherals, q.gate = none ∧ ∃ size l, q.windowSize = .ok size ∧
    q.contains p.led.clock.register size = true ∧
    Device.build q.kind q.layout size = .ok (.rcc (Rcc.init l)) ∧
    p.led.clock.register - q.base ∈ l.enableOffsets

/-- Every window holding the LED's mode or output register is a GPIO window gated by nothing or
by the LED's own clock bit. -/
def PinsGated (p : Profile) : Prop :=
  ∀ q ∈ p.peripherals, ∀ size, q.windowSize = .ok size →
    (q.contains p.led.mode.register size = true ∨ q.contains p.led.output.register size = true) →
    q.kind = "gpio" ∧ (q.gate = none ∨ q.gate = some p.led.clock)

/-- The heartbeat of a profile sits at the registers the profile names, its clock the gate of
the LED's clock bit. -/
theorem target?_registers {p : Profile} {t : BlinkTarget} (h : p.target? = some t) :
    ClockGate.bit? ⟨p.led.clock.register⟩ p.led.clock.bit = some t.clock ∧
      t.clock.register.addr = p.led.clock.register ∧ t.mode.register.addr = p.led.mode.register ∧
      t.output.register.addr = p.led.output.register := by
  simp only [target?, Option.bind_eq_bind, Option.bind_eq_some_iff, Option.pure_def,
    Option.some.injEq] at h
  obtain ⟨clock, hc, mode, hm, out, ho, rfl⟩ := h
  refine ⟨hc, ?_, ?_, ?_⟩
  · simp only [ClockGate.bit?, Option.ite_none_right_eq_some, Option.some.injEq] at hc
    rw [← hc.2]
  · simp only [ModeField.mk?, Option.dite_none_right_eq_some, Option.some.injEq] at hm
    obtain ⟨-, rfl⟩ := hm
    rfl
  · simp only [OutputBit.mk?, Option.dite_none_right_eq_some, Option.some.injEq] at ho
    obtain ⟨-, rfl⟩ := ho
    rfl

end Profile

namespace Bus

theorem window_of_mem {ps : List PeripheralSpec} {ws : List Window} (h : ps.mapM windowOf = .ok ws)
    {q : PeripheralSpec} (hq : q ∈ ps) : ∃ (i : Nat) (w : Window), ws[i]? = some w ∧ windowOf q = .ok w := by
  obtain ⟨i, hi⟩ := List.mem_iff_getElem?.mp hq
  obtain ⟨w, hw, hqw⟩ := Forall₂.getElem? (mapM_forall₂ h) hi
  exact ⟨i, w, hw, hqw⟩

theorem windowOf_holds {q : PeripheralSpec} {w : Window} (h : windowOf q = .ok w) {size : UInt64}
    (hs : q.windowSize = .ok size) {a : UInt32} (ha : q.contains a size = true) : w.Holds a := by
  obtain ⟨hsize, -, hbase, -⟩ := windowOf_ok h
  rw [hs, Except.ok.injEq] at hsize
  simp only [PeripheralSpec.contains, Bool.and_eq_true, decide_eq_true_eq] at ha
  rw [Window.Holds, hbase, ← hsize]
  exact ha

section FromProfile

variable {ω : Type} {p : Profile} {watch : ω} {b : Bus ω} (h : fromProfile p watch = .ok b)
include h

theorem fromProfile_clean : b.faultLog = [] := by
  obtain ⟨-, ws, -, rfl⟩ := fromProfile_ok h
  rfl

theorem fromProfile_firstHolding {q : PeripheralSpec} (hq : q ∈ p.peripherals) {size : UInt64}
    (hs : q.windowSize = .ok size) {a : UInt32} (ha : q.contains a size = true) :
    ∃ i w, FirstHolding b.windows a i w ∧ windowOf q = .ok w := by
  have hp : p.peripherals ≠ [] := List.ne_nil_of_mem hq
  obtain ⟨i, w, hi, hw⟩ := window_of_mem (fromProfile_windows h hp) hq
  exact ⟨i, w, firstHolding_of_apart (fromProfile_apart h hp) hi (windowOf_holds hw hs ha), hw⟩

theorem fromProfile_clock (hclock : p.ClockInRcc) :
    ∃ j w r, FirstHolding b.windows p.led.clock.register j w ∧ w.gate = none ∧
      w.device = .rcc r ∧ p.led.clock.register - w.base ∈ r.enable.map Prod.fst := by
  obtain ⟨q, hq, hg, size, l, hs, hc, hd, hoff⟩ := hclock
  obtain ⟨j, w, hf, hw⟩ := fromProfile_firstHolding h hq hs hc
  obtain ⟨hsize, -, hbase, hwg, d, hbuild, hpre⟩ := windowOf_ok hw
  rw [hs, Except.ok.injEq] at hsize
  rw [← hsize, hd, Except.ok.injEq] at hbuild
  subst hbuild
  obtain ⟨r, hr, hkeys⟩ := Device.presetAll_rcc hpre
  refine ⟨j, w, r, hf, by rw [hwg, hg]; rfl, hr, ?_⟩
  rw [hkeys, Rcc.init_keys, hbase]
  exact hoff

theorem fromProfile_pin (hpins : p.PinsGated) (hp : p.peripherals ≠ []) {a : UInt32}
    (ha : a ∈ [p.led.mode.register, p.led.output.register]) :
    ∃ i w g, FirstHolding b.windows a i w ∧ w.device = .gpio g ∧
      (w.gate = none ∨ w.gate = ClockGate.bit? ⟨p.led.clock.register⟩ p.led.clock.bit) := by
  obtain ⟨-, -, -, -, hmapped⟩ := Profile.validate_ok (fromProfile_ok h).1
  obtain ⟨q, hq⟩ := Profile.checkMapped_ok (hmapped hp) a (List.mem_cons_of_mem _ ha)
  obtain ⟨hmem, size, hs, hc⟩ := Profile.peripheralAt_go_some hq
  have hheld : q.contains p.led.mode.register size = true ∨
      q.contains p.led.output.register size = true := by
    simp only [List.mem_cons, List.not_mem_nil, or_false] at ha
    rcases ha with rfl | rfl
    · exact .inl hc
    · exact .inr hc
  obtain ⟨hkind, hgate⟩ := hpins q hmem size hs hheld
  obtain ⟨i, w, hf, hw⟩ := fromProfile_firstHolding h hmem hs hc
  obtain ⟨hsize, -, -, hwg, d, hbuild, hpre⟩ := windowOf_ok hw
  rw [hkind] at hbuild
  obtain ⟨g, rfl⟩ := Device.build_gpio hbuild
  obtain ⟨g', hg'⟩ := Device.presetAll_gpio hpre
  refine ⟨i, w, g', hf, hg', ?_⟩
  rcases hgate with hgate | hgate
  · exact .inl (by rw [hwg, hgate]; rfl)
  · exact .inr (by rw [hwg, hgate]; rfl)

/-- **The bus of a well-wired profile is wired** for the profile's heartbeat: its clock register
at an enable register of an ungated RCC window, its pins in GPIO windows gated by nothing but
the LED's clock. -/
theorem wired_fromProfile {t : BlinkTarget} (ht : p.target? = some t) (hclock : p.ClockInRcc)
    (hpins : p.PinsGated) : b.Wired t := by
  obtain ⟨hgate, hC, hM, hO⟩ := Profile.target?_registers ht
  have hp : p.peripherals ≠ [] := by
    obtain ⟨q, hq, -⟩ := hclock
    exact List.ne_nil_of_mem hq
  obtain ⟨a1, a2, a3⟩ := Profile.checkLed_aligned (Profile.validate_ok (fromProfile_ok h).1).1
  refine ⟨fromProfile_fits h, fromProfile_clean h, ?_, ?_, ?_⟩
  · simp [hC, hM, hO, a1, a2, a3]
  · rw [hC]
    exact fromProfile_clock h hclock
  · intro a ha
    rw [hM, hO] at ha
    rw [← hgate]
    exact fromProfile_pin h hpins hp ha

end FromProfile

end Bus

namespace Session

variable {ω : Type} [Observer ω]

/-- Configuring a session on a wired bus clocks it: the clock write comes before the two writes
to the mode register. -/
theorem configure_clocked {s : Session ω} (hu : s.blinker.phase = .uninitialized)
    (hw : s.bus.Wired s.target) : s.configure.bus.Clocked s.target := by
  have hmode : s.target.mode.register.addr ∈
      [s.target.mode.register.addr, s.target.output.register.addr] := List.mem_cons_self
  rw [configure_eq s hu]
  simp only [bus, RegisterBus.setBits_eq, RegisterBus.clearBits_eq, Rig.read_fst, Rig.read_snd,
    Rig.write_eq]
  exact Bus.modify_pin_clocked (Bus.modify_pin_clocked (Bus.modify_clock_clocked hw) hmode _)
    hmode _

/-- A step of a clocked blinking session keeps it clocked: the flip writes the output register,
and the wait touches no window. -/
theorem step_clocked {s : Session ω} (hb : s.blinker.phase = .blinking)
    (hc : s.bus.Clocked s.target) : (s.step).2.bus.Clocked s.target := by
  obtain ⟨level, hstep⟩ := step_eq s hb (waited_fits hc.wired.fits)
  have hflip : s.flipped.Clocked s.target :=
    Bus.modify_pin_clocked hc (List.mem_cons_of_mem _ List.mem_cons_self) _
  rw [hstep]
  change s.waited.bus.Clocked s.target
  rw [waited_bus]
  refine hflip.frame rfl rfl fun h => ?_
  dsimp only at h
  split at h
  · cases h
  · exact h

/-- **Every step keeps a clocked session clocked**: its log stays empty and its pins' gates
open. -/
theorem advance_clocked {s : Session ω} (hb : s.blinker.phase = .blinking)
    (hc : s.bus.Clocked s.target) (t : Nat) : (s.advance t).bus.Clocked s.target := by
  induction t generalizing s with
  | zero => exact hc
  | succ t ih =>
    have hran := step_ran hb hc.wired.fits
    have htarget : (s.step).2.target = s.target := by
      unfold target
      rw [hran.blinker]
    have hstep := step_clocked hb hc
    rw [← htarget] at hstep ⊢
    exact ih (hran.blinker ▸ hb) hstep

theorem configure_advance_clean {s : Session ω} (hu : s.blinker.phase = .uninitialized)
    (hw : s.bus.Wired s.target) (t : Nat) : (s.configure.advance t).bus.faultLog = [] := by
  have hb : s.configure.blinker.phase = .blinking := by simp [configure_eq s hu]
  have htarget : s.configure.target = s.target := Blinker.configure_target s.blinker s.rig
  have hc := configure_clocked hu hw
  rw [← htarget] at hc
  exact (advance_clocked hb hc t).wired.clean

omit [Observer ω] in
theorem fromProfile_wired {p : Profile} {c : SimConfig} {w : ω} {s : Session ω}
    (hs : fromProfile p c w = .ok s) (hclock : p.ClockInRcc) (hpins : p.PinsGated) :
    s.blinker.phase = .uninitialized ∧ s.bus.Wired s.target := by
  obtain ⟨b, t, hb, ht, rfl⟩ := fromProfile_eq hs
  have hw : b.Wired t := Bus.wired_fromProfile hb ht hclock hpins
  obtain ⟨level, hwith⟩ := withBus_eq hw.fits t c
  have hgated : Bus.Wired { b with gating := c.clockGating } t := hw.frame rfl rfl
  rw [hwith]
  exact ⟨rfl, hgated.delay (c.delayFor t.delayCount)⟩

/-- **A heartbeat whose clock is wired right never faults.** Take a profile whose LED clock
register is an enable register of an ungated RCC window, and whose LED pins lie only in GPIO
windows gated by nothing or by the LED's own clock bit. Every session it gives, gating on or off,
runs any number of toggles without logging a fault, so it stops at its toggle limit having made
every toggle asked of it. -/
theorem run_fault_free (p : Profile) (hclock : p.ClockInRcc) (hpins : p.PinsGated)
    (c : SimConfig) (w : ω) (s : Session ω) (hs : fromProfile p c w = .ok s) (N : UInt64) :
    let r := (s.run N.toNat).1
    r.faults = [] ∧ r.stopReason = .toggleLimit ∧ r.toggles = N := by
  intro r
  obtain ⟨hu, hw⟩ := fromProfile_wired hs hclock hpins
  have hclean := configure_advance_clean hu hw
  have hgo : ∀ t, ¬ (s.configure.advance t).Stops := fun t hst => hst.2 (hclean t)
  obtain ⟨htog, hstop, hfaults⟩ := run_unstopped (configure_fromProfile hs) N.toNat_lt hgo
  refine ⟨?_, hstop, UInt64.toNat_inj.mp htog⟩
  change (s.run N.toNat).1.faults = []
  rw [hfaults, Bus.faults, hclean, List.reverse_nil]

/-- The Blue Pill's clock and pins are wired right: its default session, run for three toggles,
logs no fault. -/
theorem run_fault_free_bluepill :
    Profile.bluepill.ClockInRcc ∧ Profile.bluepill.PinsGated ∧
      ∃ s, fromProfile Profile.bluepill SimConfig.default () = .ok s ∧
        let r := (s.run (3 : UInt64).toNat).1
        r.faults = [] ∧ r.stopReason = .toggleLimit ∧ r.toggles = 3 := by
  have hclock : Profile.bluepill.ClockInRcc := by
    refine ⟨Profile.rccWindow "stm32f1" 0x40021000, List.mem_cons_self, rfl, 0x400, .f1, ?_, ?_,
      ?_, ?_⟩
    · decide +kernel
    · decide +kernel
    · decide +kernel
    · decide
  have hpins : Profile.bluepill.PinsGated := by
    intro q hq size hs hc
    simp only [Profile.bluepill, Profile.board, List.mem_cons, List.not_mem_nil, or_false] at hq
    rcases hq with rfl | rfl
    · -- the RCC window holds neither pin register
      have h : (Profile.rccWindow "stm32f1" 0x40021000).windowSize = .ok 0x400 := by decide +kernel
      rw [h, Except.ok.injEq] at hs
      subst hs
      revert hc
      decide
    · exact ⟨rfl, .inr rfl⟩
  obtain ⟨s, hs⟩ := fromProfile_bluepill SimConfig.default ()
  exact ⟨hclock, hpins, s, hs, run_fault_free Profile.bluepill hclock hpins SimConfig.default () s hs 3⟩

end Session

end Heartbeat
