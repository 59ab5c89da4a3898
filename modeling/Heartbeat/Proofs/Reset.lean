import Heartbeat.Bus.Ops
import Heartbeat.Proofs.Clocked

/-!
# Reset forgets what the bus went through

A power-on reset puts each window's model back at power-on and forces the window's reset values
again; of the model's state it reads nothing else. And nothing a client does to a bus changes
what a model powers on to: a write keeps a GPIO port's layout, an RCC block's enable registers
and a memory's size, forced values do too, and a reset leaves models that power on as before. So
a reset after any history answers as a reset at the start would, and on the bus a profile built,
whose reset values were forced on fresh models, it gives back the bus as built.

* `Device.reset_write`, `Device.reset_preset`, `Device.reset_presetAll`, `Device.build_reset` :
  what a model powers on to survives writes and forced values, and a fresh model is at power-on;
* `Window.cold` : a window with its model at power-on, its reset values not forced;
* `Bus.powerOnAll_cold`, `Bus.powerOnAll_map_cold` : a reset reads the cold windows only, and
  leaves windows that power on as before;
* `Bus.perform_cold`, `Bus.performAll_cold` : every operation keeps the cold windows;
* `Bus.reset_performAll`, `Bus.reset_idem`, `Bus.reset_fromProfile` : a reset answers alike from
  every state a bus reaches, twice is once, and on a profile's bus it gives back the bus as
  built;
* `Bus.reset_forgets_history` : all three.
-/

namespace Heartbeat

namespace Gpio

@[simp] theorem layout_write (g : Gpio) (off v : UInt32) : (g.write off v).layout = g.layout := by
  unfold write
  split <;> simp only [apply_ite Gpio.layout, ite_self]

@[simp] theorem layout_preset (g : Gpio) (off v : UInt32) : (g.preset off v).layout = g.layout := by
  unfold preset
  split_ifs
  · rfl
  · exact layout_write g off v

end Gpio

namespace Rcc

theorem reset_eq (r : Rcc) : r.reset = ⟨r.layout, (r.enable.map Prod.fst).map (·, 0)⟩ := by
  simp [reset, Function.comp_def]

theorem reset_init (l : RccLayout) : (init l).reset = init l := by
  simp [reset, init, Function.comp_def]

theorem reset_write (r : Rcc) (off v : UInt32) : (r.write off v).reset = r.reset := by
  rw [reset_eq, reset_eq, write_keys]
  rfl

end Rcc

namespace Device

theorem reset_reset (d : Device) : d.reset.reset = d.reset := by
  cases d with
  | gpio g => rfl
  | rcc r => simp [reset, Rcc.reset, Function.comp_def]
  | memory m => rfl

/-- A write leaves what the model powers on to: a port's layout, a block's enable registers, a
memory's size. -/
theorem reset_write {d d' : Device} {off v : UInt32} (h : d.write off v = .ok d') :
    d'.reset = d.reset := by
  cases d with
  | gpio g =>
    cases h
    simp [reset, Gpio.reset]
  | rcc r =>
    cases h
    simp [reset, Rcc.reset_write]
  | memory m =>
    simp only [write, Memory.write] at h
    split at h
    · simp [Except.map] at h
      subst h
      rfl
    · cases h

theorem reset_preset {d d' : Device} {off v : UInt32} (h : d.preset off v = .ok d') :
    d'.reset = d.reset := by
  cases d with
  | gpio g =>
    cases h
    simp [reset, Gpio.reset]
  | rcc r => exact reset_write h
  | memory m => exact reset_write h

theorem reset_presetAll : ∀ (d : Device) (rv : List (UInt32 × UInt32)),
    (presetAll d rv).1.reset = d.reset
  | d, [] => rfl
  | d, (off, v) :: rest => by
    unfold presetAll
    split
    · rename_i d' hd
      rw [reset_presetAll d' rest, reset_preset hd]
    · rfl

theorem build_reset {kind : String} {layout : Option String} {size : UInt64} {d : Device}
    (h : build kind layout size = .ok d) : d.reset = d := by
  unfold build at h
  split_ifs at h
  · -- a GPIO port of the layout named, `f1` when none is
    split at h
    · cases h
      rfl
    · split at h
      · cases h
        rfl
      · cases h
  · split at h
    · cases h
      simp [reset, Rcc.reset_init]
    · split at h
      · cases h
        simp [reset, Rcc.reset_init]
      · cases h
  · cases h
    rfl

end Device

namespace Window

/-- The window with its model back at power-on, its reset values not yet forced: all that a reset
of the window reads. -/
def cold (w : Window) : Window := { w with device := w.device.reset }

theorem cold_device {w : Window} {d : Device} (hd : d.reset = w.device.reset) :
    { w with device := d }.cold = w.cold := by
  simp [cold, hd]

theorem powerOn_cold (w : Window) : w.cold.powerOn = w.powerOn := by
  simp [powerOn, cold, Device.reset_reset]

theorem cold_powerOn (w : Window) : w.powerOn.1.cold = w.cold := by
  simp [powerOn, cold, Device.reset_presetAll, Device.reset_reset]

end Window

theorem map_cold_set {ws : List Window} {i : Nat} {w : Window} (hi : ws[i]? = some w) {d : Device}
    (hd : d.reset = w.device.reset) :
    (ws.set i { w with device := d }).map Window.cold = ws.map Window.cold := by
  rw [List.map_set, Window.cold_device hd]
  apply List.ext_getElem?
  intro j
  rw [List.getElem?_set]
  split
  · rename_i hij
    subst hij
    obtain ⟨hlt, hget⟩ := List.getElem?_eq_some_iff.mp hi
    simp [hlt, hget]
  · rfl

namespace Bus

/-- Power-on of windows that power on alike: the same answer, and on success the same windows. -/
theorem powerOnAll_cold : ∀ {ws ws' : List Window}, ws'.map Window.cold = ws.map Window.cold →
    (powerOnAll ws').2 = (powerOnAll ws).2 ∧
      ((powerOnAll ws).2 = none → (powerOnAll ws').1 = (powerOnAll ws).1)
  | [], [], _ => ⟨rfl, fun _ => rfl⟩
  | [], _ :: _, h => by simp at h
  | _ :: _, [], h => by simp at h
  | w :: ws, w' :: ws', h => by
    simp only [List.map_cons, List.cons.injEq] at h
    have hw : w'.powerOn = w.powerOn := by rw [← Window.powerOn_cold, h.1, Window.powerOn_cold]
    obtain ⟨ih2, ih1⟩ := powerOnAll_cold h.2
    rcases hp : w.powerOn with ⟨u, _ | f⟩
    · simp only [powerOnAll, hw, hp]
      exact ⟨ih2, fun hn => by rw [ih1 hn]⟩
    · simp [powerOnAll, hw, hp]

theorem powerOnAll_map_cold : ∀ ws : List Window,
    (powerOnAll ws).1.map Window.cold = ws.map Window.cold
  | [] => rfl
  | w :: ws => by
    have hw := Window.cold_powerOn w
    rcases hp : w.powerOn with ⟨u, _ | f⟩
    · rw [hp] at hw
      simp only [powerOnAll, hp, List.map_cons, hw, powerOnAll_map_cold ws]
    · rw [hp] at hw
      simp only [powerOnAll, hp, List.map_cons, hw]

section Reset

variable {ω : Type} (b : Bus ω)

theorem reset_windows : b.reset.1.windows = (powerOnAll b.windows).1 := by
  rcases h : powerOnAll b.windows with ⟨ws, _ | f⟩ <;> simp [reset, h]

theorem reset_answer : b.reset.2 = (powerOnAll b.windows).2 := by
  rcases h : powerOnAll b.windows with ⟨ws, _ | f⟩ <;> simp [reset, h]

theorem reset_of_none (h : (powerOnAll b.windows).2 = none) :
    b.reset = ({ b with windows := (powerOnAll b.windows).1, faultLog := [], cycle := 0 }, none) := by
  rcases hp : powerOnAll b.windows with ⟨ws, _ | f⟩
  · simp [reset, hp]
  · rw [hp] at h
    cases h

end Reset

/-! ### Every operation keeps the cold windows -/

variable {ω : Type}

theorem writeWord_cold {b b' : Bus ω} {a v : UInt32} (h : b.writeWord a v = .ok (.ok b')) :
    b'.windows.map Window.cold = b.windows.map Window.cold := by
  obtain ⟨i, w, d, hi, hd, rfl⟩ := writeWord_ok_write h
  exact map_cold_set hi (Device.reset_write hd)

variable [Observer ω]

theorem writeAt_windows {b b' : Bus ω} {a v : UInt32} (h : b.writeAt a v = .ok b') :
    b'.windows = b.windows ∨ ∃ b'', b.writeWord a v = .ok (.ok b'') ∧ b'.windows = b''.windows := by
  unfold writeAt at h
  cases ht : b.tick with
  | error e => simp [ht] at h
  | ok cycle =>
    cases hw : b.writeWord a v with
    | error e => simp [ht, hw] at h
    | ok r =>
      cases hn : b.nameAt a with
      | error e => simp [ht, hw, hn] at h
      | ok name =>
        cases r with
        | ok b'' =>
          simp only [ht, hw, hn, ok_bind, ok_eq_pure, Except.ok.injEq] at h
          subst h
          exact .inr ⟨b'', rfl, rfl⟩
        | error f =>
          simp only [ht, hw, hn, ok_bind, ok_eq_pure, Except.ok.injEq] at h
          subst h
          exact .inl rfl

theorem write_cold (b : Bus ω) (a v : UInt32) :
    (b.write a v).windows.map Window.cold = b.windows.map Window.cold := by
  unfold write
  split
  · rfl
  · cases hw : b.writeAt a v with
    | error e => rfl
    | ok b' =>
      rcases writeAt_windows hw with h | ⟨b'', hww, h⟩
      · exact congrArg (List.map Window.cold) h
      · rw [h]
        exact writeWord_cold hww

theorem modify_cold (b : Bus ω) (a v : UInt32) :
    ((b.read a).2.write a v).windows.map Window.cold = b.windows.map Window.cold := by
  rw [write_cold, (read_frame b a).1]

/-- One operation keeps the cold windows: reads and the switches touch no window, writes give a
window a model that powers on as before, and a reset powers every window on again. -/
theorem perform_cold (b : Bus ω) (op : BusOp) :
    (b.perform op).windows.map Window.cold = b.windows.map Window.cold := by
  cases op with
  | read a => rw [perform, (read_frame b a).1]
  | write a v => exact write_cold b a v
  | setBits a m => exact modify_cold b a _
  | clearBits a m => exact modify_cold b a _
  | toggleBits a m => exact modify_cold b a _
  | writeWord a v =>
    simp only [perform]
    split
    · rename_i b' hw
      exact writeWord_cold hw
    · rfl
    · rfl
  | setClockGating enabled => rfl
  | clearFaults => rfl
  | notifyDelay n => rfl
  | reset => rw [perform, reset_windows, powerOnAll_map_cold]

theorem performAll_cold (b : Bus ω) (ops : List BusOp) :
    (b.performAll ops).windows.map Window.cold = b.windows.map Window.cold := by
  induction ops generalizing b with
  | nil => rfl
  | cons op ops ih =>
    show (((b.perform op).performAll ops).windows.map Window.cold) = _
    rw [ih, perform_cold]

/-- **A reset answers the same from every state a bus reaches.** Whatever was done to a bus, its
reset refuses the same reset value or none, and when none is refused it leaves the same windows. -/
theorem reset_performAll (b : Bus ω) (ops : List BusOp) :
    (b.performAll ops).reset.2 = b.reset.2 ∧
      (b.reset.2 = none → (b.performAll ops).reset.1.windows = b.reset.1.windows) := by
  obtain ⟨hans, hwin⟩ := powerOnAll_cold (performAll_cold b ops)
  rw [reset_answer, reset_answer, hans]
  refine ⟨rfl, fun hn => ?_⟩
  rw [reset_windows, reset_windows, hwin hn]

theorem reset_idem (b : Bus ω) (h : b.reset.2 = none) : b.reset.1.reset = (b.reset.1, none) := by
  have hb := reset_of_none b (by rwa [reset_answer] at h)
  obtain ⟨hans, hwin⟩ := reset_performAll b [.reset]
  change b.reset.1.reset.2 = b.reset.2 at hans
  change b.reset.2 = none → b.reset.1.reset.1.windows = b.reset.1.windows at hwin
  rw [reset_of_none b.reset.1 (by rw [← reset_answer, hans, h])]
  have hw := hwin h
  rw [reset_windows] at hw
  rw [hw, hb]

/-! ### The bus a profile builds -/

theorem powerOnAll_of_powerOn : ∀ {ws : List Window}, (∀ w ∈ ws, w.powerOn = (w, none)) →
    powerOnAll ws = (ws, none)
  | [], _ => rfl
  | w :: ws, h => by
    simp only [powerOnAll, h w List.mem_cons_self,
      powerOnAll_of_powerOn fun u hu => h u (List.mem_cons_of_mem w hu)]

omit [Observer ω] in
/-- A peripheral's window was built with its reset values forced on a fresh model: its power-on
gives it back. -/
theorem powerOn_windowOf {q : PeripheralSpec} {w : Window} (h : windowOf q = .ok w) :
    w.powerOn = (w, none) := by
  obtain ⟨size, d, -, hd, hp, hw⟩ := windowOf_eq h
  have hreset : w.device.reset = d := by
    rw [← Device.build_reset hd, ← Device.reset_presetAll d q.resetValues.entries, hp]
  have hrv : w.resetValues = q.resetValues.entries := by rw [hw]
  simp only [Window.powerOn, hreset, hrv, hp]
  rw [← hrv]

omit [Observer ω] in
theorem powerOnAll_fromProfile {p : Profile} {watch : ω} {b : Bus ω}
    (h : fromProfile p watch = .ok b) : powerOnAll b.windows = (b.windows, none) := by
  obtain ⟨-, ws, hws, rfl⟩ := fromProfile_ok h
  apply powerOnAll_of_powerOn
  intro w hw
  split at hw
  · -- the memory cells of a profile without peripherals
    obtain ⟨r, -, rfl⟩ := List.mem_map.mp hw
    rfl
  · obtain ⟨i, hi⟩ := List.mem_iff_getElem?.mp hw
    obtain ⟨q, -, hq⟩ := Forall₂.getElem? (mapM_forall₂ hws).flip hi
    exact powerOn_windowOf hq

omit [Observer ω] in
theorem queries_of_windows {b b' : Bus ω} (h : b'.windows = b.windows) (a : UInt32) :
    b'.peek a = b.peek a ∧ b'.readWord a = b.readWord a ∧ ∀ pin, b'.pinState a pin = b.pinState a pin := by
  simp [peek, readWord, pinState, h]

/-- **A reset gives back the bus a profile built**, after anything done to it: its reset values
all take, every window is as built, the counter is at zero and the log empty. -/
theorem reset_fromProfile {p : Profile} {watch : ω} {b : Bus ω} (h : fromProfile p watch = .ok b)
    (ops : List BusOp) :
    (b.performAll ops).reset.2 = none ∧ (b.performAll ops).reset.1.windows = b.windows ∧
      (b.performAll ops).reset.1.cycle = 0 ∧ (b.performAll ops).reset.1.faultLog = [] := by
  have hb := powerOnAll_fromProfile h
  have hans : b.reset.2 = none := by rw [reset_answer, hb]
  obtain ⟨h1, h2⟩ := reset_performAll b ops
  have hn : (powerOnAll (b.performAll ops).windows).2 = none := by rw [← reset_answer, h1, hans]
  have hw := h2 hans
  rw [reset_windows, reset_windows, hb] at hw
  rw [reset_of_none _ hn]
  exact ⟨rfl, hw, rfl, rfl⟩

/-- **Reset forgets what the bus went through.** After any operations on the bus a profile builds,
a reset takes its reset values and gives back every window as built, so every direct query
answers as on the built bus, with the cycle counter at zero and the log empty. On any bus, a reset
refuses the same reset value, or none, from every state the bus reaches, and when it refuses none
it leaves the same windows; so a reset made twice changes nothing the second time. -/
theorem reset_forgets_history :
    (∀ (p : Profile) (watch : ω) (b : Bus ω), fromProfile p watch = .ok b → ∀ ops : List BusOp,
      let r := (b.performAll ops).reset
      r.2 = none ∧ r.1.windows = b.windows ∧ r.1.cycle = 0 ∧ r.1.faultLog = [] ∧
        ∀ a, r.1.peek a = b.peek a ∧ r.1.readWord a = b.readWord a ∧
          ∀ pin, r.1.pinState a pin = b.pinState a pin) ∧
    (∀ (b : Bus ω) (ops : List BusOp), (b.performAll ops).reset.2 = b.reset.2 ∧
      (b.reset.2 = none → (b.performAll ops).reset.1.windows = b.reset.1.windows)) ∧
    (∀ b : Bus ω, b.reset.2 = none → b.reset.1.reset = (b.reset.1, none)) := by
  refine ⟨fun p watch b h ops => ?_, reset_performAll, reset_idem⟩
  obtain ⟨h1, h2, h3, h4⟩ := reset_fromProfile h ops
  exact ⟨h1, h2, h3, h4, queries_of_windows h2⟩

/-- The Blue Pill's bus, reset after its clock was enabled, its LED toggled and gating switched
off, is the bus as built; and its first reset, made again, changes nothing. -/
theorem reset_forgets_history_bluepill :
    ∃ b : Bus Unit, fromProfile Profile.bluepill () = .ok b ∧ b.reset.2 = none ∧
      b.reset.1.reset = (b.reset.1, none) ∧
      let r := (b.performAll [.write 0x40021018 0x10, .toggleBits 0x4001100C 0x2000,
        .setClockGating false]).reset
      r.2 = none ∧ r.1.windows = b.windows := by
  obtain ⟨s, hs⟩ := Session.fromProfile_bluepill SimConfig.default ()
  obtain ⟨b, -, hb, -, -⟩ := Session.fromProfile_eq hs
  have hnone := (reset_forgets_history.1 Profile.bluepill () b hb []).1
  have hrun := reset_forgets_history.1 Profile.bluepill () b hb
    [.write 0x40021018 0x10, .toggleBits 0x4001100C 0x2000, .setClockGating false]
  exact ⟨b, hb, hnone, reset_forgets_history.2.2 b hnone, hrun.1, hrun.2.1⟩

end Bus

end Heartbeat
