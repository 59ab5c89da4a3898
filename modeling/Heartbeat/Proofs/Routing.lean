import Heartbeat.Proofs.Reset

/-!
# A profile's bus routes addresses as the profile declares them

A profile finds the peripheral holding an address by searching its windows in declaration order;
the bus it builds searches its own windows the same way, and each of them is a declared
peripheral's window, with its id, base and size. So the two searches stop at the same window.
Nothing done to the bus changes that: operations only give a window a model that powers on as the
old one did, which keeps the window's place, name and extent and the model's kind and size.

Whether the window's model then serves the word is the model's own affair. A GPIO port or an RCC
block answers at every offset; plain memory keeps the whole words of its window only. On a window
whose size is not a multiple of four, the last bytes are declared and not served: a direct read
there is a memory violation, as if no window held them.

* `Profile.peripheralAt_go_route` : the profile's search and the bus's stop at the same window;
* `FirstHolding.of_cold`, `not_holds_of_cold`, `fits_of_cold` : windows alike but for their models
  route alike;
* `Device.read_ok_reset`, `Device.build_read_ok`, `Device.write_ok_of_read_ok` : which offsets a
  model serves;
* `Bus.Served`, `Bus.readWord_served_iff` : a direct read is served where the bus serves it, and a
  memory violation elsewhere;
* `Profile.Serves`, `Bus.performAll_served`, `Bus.routes_as_declared` : on every bus a profile's
  bus reaches, that is where the profile declares a peripheral whose model takes the word;
* `Profile.shortRam`, `Bus.tail_bytes_unserved` : a declared address that is not served.
-/

namespace Heartbeat

theorem Memory.read_ok_iff (m : Memory) (off : UInt32) :
    (∃ v, m.read off = .ok v) ↔ off.toNat / 4 < m.count := by
  unfold Memory.read
  split <;> simp [*]

namespace Device

theorem read_ok_reset (d : Device) (off : UInt32) :
    (∃ v, d.reset.read off = .ok v) ↔ ∃ v, d.read off = .ok v := by
  cases d with
  | gpio g => simp [reset, read]
  | rcc r => simp [reset, read]
  | memory m => simp only [reset, read, Memory.read_ok_iff, Memory.reset]

theorem write_ok_of_read_ok {d : Device} {off : UInt32} (h : ∃ v, d.read off = .ok v) (v : UInt32) :
    ∃ d', d.write off v = .ok d' := by
  cases d with
  | gpio g => exact ⟨_, rfl⟩
  | rcc r => exact ⟨_, rfl⟩
  | memory m =>
    have hc := (Memory.read_ok_iff m off).mp h
    exact ⟨.memory ⟨m.count, setCell (off.toNat / 4) v m.cells⟩, by
      simp [write, Memory.write, hc, Except.map]⟩

/-- The kind `memory` builds plain memory of the window's whole words, and no other kind does. -/
theorem build_memory {kind : String} {layout : Option String} {size : UInt64} {d : Device}
    (h : build kind layout size = .ok d) :
    (kind = "memory" ∧ d = .memory (Memory.init size)) ∨ (kind ≠ "memory" ∧ ∀ m, d ≠ .memory m) := by
  unfold build at h
  split_ifs at h with hg hr hm
  · subst hg
    refine .inr ⟨by decide, ?_⟩
    rintro m rfl
    split at h
    · cases h
    · split at h <;> cases h
  · subst hr
    refine .inr ⟨by decide, ?_⟩
    rintro m rfl
    split at h
    · cases h
    · split at h <;> cases h
  · cases h
    exact .inl ⟨hm, rfl⟩

theorem build_read_ok {kind : String} {layout : Option String} {size : UInt64} {d : Device}
    (h : build kind layout size = .ok d) (off : UInt32) :
    (∃ v, d.read off = .ok v) ↔ (kind = "memory" → off.toNat / 4 < size.toNat / 4) := by
  rcases build_memory h with ⟨hk, rfl⟩ | ⟨hk, hd⟩
  · simp only [read, Memory.read_ok_iff, Memory.init, hk, forall_const]
  · -- a port or a clock block answers at every offset
    refine iff_of_true ?_ (fun hm => absurd hm hk)
    cases d with
    | gpio g => exact ⟨_, rfl⟩
    | rcc r => exact ⟨_, rfl⟩
    | memory m => exact absurd rfl (hd m)

end Device

namespace Window

theorem holds_cold {w : Window} {a : UInt32} : w.cold.Holds a ↔ w.Holds a := Iff.rfl

theorem fits_cold {w : Window} : w.cold.Fits ↔ w.Fits := Iff.rfl

end Window

section Cold

variable {ws ws' : List Window} (h : ws'.map Window.cold = ws.map Window.cold)
include h

theorem exists_cold_of_mem {w : Window} (hw : w ∈ ws') : ∃ v ∈ ws, v.cold = w.cold :=
  List.mem_map.mp (h ▸ List.mem_map_of_mem hw)

theorem FirstHolding.of_cold {a : UInt32} {i : Nat} {w : Window} (hf : FirstHolding ws a i w) :
    ∃ w', FirstHolding ws' a i w' ∧ w'.cold = w.cold := by
  obtain ⟨hi, hw, hbefore⟩ := hf
  have hi' : (ws'.map Window.cold)[i]? = some w.cold := by simp [h, hi]
  rw [List.getElem?_map, Option.map_eq_some_iff] at hi'
  obtain ⟨w', hw', hcold⟩ := hi'
  refine ⟨w', ⟨hw', Window.holds_cold.mp (hcold ▸ hw), ?_⟩, hcold⟩
  intro u hu hua
  have htake : (ws'.take i).map Window.cold = (ws.take i).map Window.cold := by
    rw [List.map_take, h, ← List.map_take]
  obtain ⟨v, hv, hvu⟩ := exists_cold_of_mem htake hu
  exact hbefore v hv (Window.holds_cold.mp (hvu ▸ hua))

theorem not_holds_of_cold {a : UInt32} (hn : ∀ w ∈ ws, ¬ w.Holds a) : ∀ w ∈ ws', ¬ w.Holds a := by
  intro w hw hwa
  obtain ⟨v, hv, hvw⟩ := exists_cold_of_mem h hw
  exact hn v hv (Window.holds_cold.mp (hvw ▸ hwa))

theorem fits_of_cold (hfit : ∀ w ∈ ws, w.Fits) : ∀ w ∈ ws', w.Fits := by
  intro w hw
  obtain ⟨v, hv, hvw⟩ := exists_cold_of_mem h hw
  exact Window.fits_cold.mp (hvw ▸ hfit v hv)

end Cold

namespace Bus

theorem windowOf_contains {q : PeripheralSpec} {w : Window} (h : windowOf q = .ok w) (a : UInt32) :
    q.contains a w.size = decide (w.Holds a) := by
  obtain ⟨-, -, hbase, -⟩ := windowOf_ok h
  simp [PeripheralSpec.contains, Window.Holds, hbase]

end Bus

namespace Profile

/-- The profile's search and the bus's go down the declared windows together: they stop at the
same peripheral's window, or both find none. -/
theorem peripheralAt_go_route {a : UInt32} {ps : List PeripheralSpec} {ws : List Window}
    (h : List.Forall₂ (fun q w => Bus.windowOf q = .ok w) ps ws) :
    (∃ i q w, Bus.windowOf q = .ok w ∧ FirstHolding ws a i w ∧
        peripheralAt.go a ps = .ok (some q)) ∨
      (peripheralAt.go a ps = .ok none ∧ ∀ w ∈ ws, ¬ w.Holds a) := by
  induction h with
  | nil => exact .inr ⟨rfl, by simp⟩
  | @cons q w qs ws hqw _ ih =>
    have hs := (Bus.windowOf_ok hqw).1
    have hc := Bus.windowOf_contains hqw a
    by_cases hh : w.Holds a
    · exact .inl ⟨0, q, w, hqw, firstHolding_cons_zero w ws a hh,
        by simp [peripheralAt.go, hs, hc, hh]⟩
    · rcases ih with ⟨i, q', w', hqw', hf, hgo⟩ | ⟨hgo, hn⟩
      · exact .inl ⟨i + 1, q', w', hqw', firstHolding_cons_succ hh hf,
          by simp [peripheralAt.go, hs, hc, hh, hgo]⟩
      · refine .inr ⟨by simp [peripheralAt.go, hs, hc, hh, hgo], ?_⟩
        intro u hu
        rcases List.mem_cons.mp hu with rfl | hu
        · exact hh
        · exact hn u hu

end Profile

namespace PeripheralSpec

/-- Whether the model of a peripheral with a window of `size` bytes serves the word at an address
of the window: plain memory keeps the window's whole words only. -/
def TakesWord (q : PeripheralSpec) (size : UInt64) (a : UInt32) : Prop :=
  q.kind = "memory" → (a.toNat - q.base.toNat) / 4 < size.toNat / 4

end PeripheralSpec

namespace Profile

/-- The profile declares a peripheral holding the address, and its model serves the word there. -/
def Serves (p : Profile) (a : UInt32) : Prop :=
  ∃ q size, p.peripheralAt a = .ok (some q) ∧ q.windowSize = .ok size ∧ q.TakesWord size a

theorem serves_iff {p : Profile} {a : UInt32} {q : PeripheralSpec} {size : UInt64}
    (hq : p.peripheralAt a = .ok (some q)) (hs : q.windowSize = .ok size) :
    p.Serves a ↔ q.TakesWord size a := by
  constructor
  · rintro ⟨q', size', hq', hs', ht⟩
    rw [hq, Except.ok.injEq, Option.some.injEq] at hq'
    subst hq'
    rw [hs, Except.ok.injEq] at hs'
    subst hs'
    exact ht
  · exact fun ht => ⟨q, size, hq, hs, ht⟩

theorem not_serves {p : Profile} {a : UInt32} (hq : p.peripheralAt a = .ok none) : ¬ p.Serves a := by
  rintro ⟨q, size, hq', -, -⟩
  rw [hq] at hq'
  cases hq'

end Profile

namespace Bus

/-- The model of a peripheral's window, at power-on, serves an address of the window exactly when
the peripheral's model takes the word there. -/
theorem windowOf_serves {q : PeripheralSpec} {w : Window} (h : windowOf q = .ok w) {a : UInt32}
    (ha : w.Holds a) :
    (∃ v, w.device.reset.read (a - w.base) = .ok v) ↔ q.TakesWord w.size a := by
  obtain ⟨-, -, hbase, -, d, hd, hp⟩ := windowOf_ok h
  have hreset : w.device.reset = d := by
    rw [← Device.build_reset hd, ← Device.reset_presetAll d q.resetValues.entries, hp]
  have hoff : (a - w.base).toNat = a.toNat - q.base.toNat := by
    rw [UInt32.toNat_sub_of_le _ _ (UInt32.le_iff_toNat_le.mpr ha.1), hbase]
  rw [hreset, Device.build_read_ok hd, hoff]
  rfl

end Bus

namespace Bus

section Served

variable {ω : Type} {b : Bus ω} {a : UInt32}

/-- The first window holding the address has a model that serves the offset there. -/
def Served (b : Bus ω) (a : UInt32) : Prop :=
  ∃ i w, FirstHolding b.windows a i w ∧ ∃ v, w.device.read (a - w.base) = .ok v

theorem served_iff {i : Nat} {w : Window} (hf : FirstHolding b.windows a i w) :
    b.Served a ↔ ∃ v, w.device.read (a - w.base) = .ok v := by
  constructor
  · rintro ⟨j, u, hu, hread⟩
    obtain ⟨rfl, rfl⟩ := hu.unique hf
    exact hread
  · exact fun hread => ⟨i, w, hf, hread⟩

theorem not_served (hn : ∀ w ∈ b.windows, ¬ w.Holds a) : ¬ b.Served a :=
  fun ⟨_, u, hu, _⟩ => hn u (List.mem_of_getElem? hu.1) hu.2.1

variable (hfit : b.Fits) (ha : a % 4 = 0)
include hfit ha

theorem readWord_served_iff :
    ((∃ v, b.readWord a = .ok (.ok v)) ↔ b.Served a) ∧
      (b.readWord a = .ok (.error (.memoryViolation a)) ↔ ¬ b.Served a) := by
  rcases locate_fits b.windows a hfit with ⟨i, w, -, hf⟩ | ⟨-, hn⟩
  · -- the first window holding the address answers, unless its model refuses the offset
    rw [served_iff hf]
    cases hr : w.device.read (a - w.base) with
    | ok x => simp [readWord_served hfit ha hf hr]
    | error e => simp [readWord_refused hfit ha hf hr]
  · simp [readWord_unmapped hfit ha hn, not_served hn]

/-- Where the bus serves a read, a direct write faults at most for a closed clock gate. -/
theorem writeWord_of_served (hs : b.Served a) (v : UInt32) :
    ∃ r, b.writeWord a v = .ok r ∧ r ≠ .error (.memoryViolation a) := by
  obtain ⟨i, w, hf, hread⟩ := hs
  by_cases hb : b.Blocked w
  · exact ⟨_, writeWord_blocked hfit ha v hf hb, by simp⟩
  · obtain ⟨d, hd⟩ := Device.write_ok_of_read_ok hread v
    exact ⟨_, writeWord_stored hfit ha v hf hb hd, by simp⟩

end Served

section Reachable

variable {ω : Type} [Observer ω] {p : Profile} {watch : ω} {b : Bus ω}
  (h : fromProfile p watch = .ok b) (ops : List BusOp)
include h

theorem performAll_fits : (b.performAll ops).Fits :=
  fits_of_cold (performAll_cold b ops) (fromProfile_fits h)

variable (hp : p.peripherals ≠ []) (a : UInt32)
include hp

/-- On every bus the profile's bus reaches, the first window holding an address is that of the
peripheral the profile finds there, with its model powering on as built; where the profile finds
none, no window holds the address. -/
theorem performAll_route :
    (∃ q i w w', p.peripheralAt a = .ok (some q) ∧ windowOf q = .ok w ∧
        FirstHolding (b.performAll ops).windows a i w' ∧ w'.cold = w.cold) ∨
      (p.peripheralAt a = .ok none ∧ ∀ w ∈ (b.performAll ops).windows, ¬ w.Holds a) := by
  have hcold := performAll_cold b ops
  rcases Profile.peripheralAt_go_route (a := a) (mapM_forall₂ (fromProfile_windows h hp)) with
    ⟨i, q, w, hqw, hf, hgo⟩ | ⟨hgo, hn⟩
  · obtain ⟨w', hf', hc⟩ := hf.of_cold hcold
    exact .inl ⟨q, i, w, w', hgo, hqw, hf', hc⟩
  · exact .inr ⟨hgo, not_holds_of_cold hcold hn⟩

theorem performAll_served : (b.performAll ops).Served a ↔ p.Serves a := by
  rcases performAll_route h ops hp a with ⟨q, i, w, w', hq, hqw, hf, hc⟩ | ⟨hq, hn⟩
  · -- the model in the window now serves what the model built for the peripheral serves
    have hholds : w.Holds a := Window.holds_cold.mp (hc ▸ Window.holds_cold.mpr hf.2.1)
    have hdev : w'.device.reset = w.device.reset := congrArg Window.device hc
    have hbase : w'.base = w.base := (congrArg Window.base hc : w'.cold.base = w.cold.base)
    rw [served_iff hf, Profile.serves_iff hq (windowOf_ok hqw).1, ← windowOf_serves hqw hholds,
      ← hdev, ← hbase, Device.read_ok_reset]
  · exact iff_of_false (not_served hn) (Profile.not_serves hq)

theorem performAll_declared {q : PeripheralSpec} (hq : p.peripheralAt a = .ok (some q))
    (ha : a % 4 = 0) :
    (b.performAll ops).nameAt a = .ok (some q.id) ∧
      ∃ w ∈ (b.performAll ops).windows, w.name = q.id ∧ w.base = q.base ∧
        (∀ pin, (b.performAll ops).pinState a pin = .ok (w.device.pinState pin)) ∧
        ∀ v, w.device.read (a - q.base) = .ok v → (b.performAll ops).readWord a = .ok (.ok v) := by
  have hfit := performAll_fits h ops
  rcases performAll_route h ops hp a with ⟨q', i, w, w', hq', hqw, hf, hc⟩ | ⟨hq', -⟩
  · rw [hq, Except.ok.injEq, Option.some.injEq] at hq'
    subst hq'
    obtain ⟨-, hname, hbase, -⟩ := windowOf_ok hqw
    have hname' : w'.name = q.id :=
      (congrArg Window.name hc : w'.cold.name = w.cold.name).trans hname
    have hbase' : w'.base = q.base :=
      (congrArg Window.base hc : w'.cold.base = w.cold.base).trans hbase
    have hloc := locate_first hfit hf
    refine ⟨by simp [nameAt, hloc, hname'], w', List.mem_of_getElem? hf.1, hname', hbase',
      fun pin => by simp [pinState, hloc], fun v hv => readWord_served hfit ha hf ?_⟩
    rw [hbase']
    exact hv
  · rw [hq] at hq'
    cases hq'

end Reachable

/-- **A profile's bus routes every address as the profile declares it**, in every state it
reaches. A direct read at an aligned address is served exactly where the profile declares a
peripheral whose model takes the word there, and is a memory violation everywhere else; a write
there faults at most for a closed clock gate; and the window answering a declared address, naming
the access and the pins is the declared peripheral's. -/
theorem routes_as_declared {ω : Type} [Observer ω] (p : Profile) (hp : p.peripherals ≠ [])
    (watch : ω) (b : Bus ω) (h : fromProfile p watch = .ok b) (ops : List BusOp) (a : UInt32)
    (ha : a % 4 = 0) :
    let b' := b.performAll ops
    ((∃ v, b'.readWord a = .ok (.ok v)) ↔ p.Serves a) ∧
      (b'.readWord a = .ok (.error (.memoryViolation a)) ↔ ¬ p.Serves a) ∧
      (p.Serves a → ∀ v, ∃ r, b'.writeWord a v = .ok r ∧ r ≠ .error (.memoryViolation a)) ∧
      ∀ q, p.peripheralAt a = .ok (some q) →
        b'.nameAt a = .ok (some q.id) ∧ ∃ w ∈ b'.windows, w.name = q.id ∧ w.base = q.base ∧
          (∀ pin, b'.pinState a pin = .ok (w.device.pinState pin)) ∧
          ∀ v, w.device.read (a - q.base) = .ok v → b'.readWord a = .ok (.ok v) := by
  intro b'
  have hfit := performAll_fits h ops
  have hsv := performAll_served h ops hp a
  obtain ⟨hok, hmv⟩ := readWord_served_iff hfit ha
  exact ⟨hok.trans hsv, hmv.trans (not_congr hsv),
    fun hs v => writeWord_of_served hfit ha (hsv.mpr hs) v,
    fun q hq => performAll_declared h ops hp a hq ha⟩

/-- On the Blue Pill's bus, once the LED's clock is enabled, the LED's output register is served,
by the port named `gpioc`. -/
theorem routes_as_declared_bluepill :
    ∃ b : Bus Unit, fromProfile Profile.bluepill () = .ok b ∧
      let b' := b.performAll [.write 0x40021018 0x10]
      (∃ v, b'.readWord 0x4001100C = .ok (.ok v)) ∧ b'.nameAt 0x4001100C = .ok (some "gpioc") := by
  obtain ⟨s, hs⟩ := Session.fromProfile_bluepill SimConfig.default ()
  obtain ⟨b, -, hb, -, -⟩ := Session.fromProfile_eq hs
  have hq : Profile.bluepill.peripheralAt 0x4001100C =
      .ok (some (Profile.gpioWindow "gpioc" "stm32f1" 0x40011000 [] ⟨0x40021018, 4⟩)) := by
    rfl
  have hsize : (Profile.gpioWindow "gpioc" "stm32f1" 0x40011000 [] ⟨0x40021018, 4⟩).windowSize =
      .ok 0x400 := by
    decide +kernel
  have hserves : Profile.bluepill.Serves 0x4001100C :=
    ⟨_, _, hq, hsize, fun hk => absurd hk (by decide)⟩
  have hr := routes_as_declared Profile.bluepill (List.cons_ne_nil _ _) () b hb
    [.write 0x40021018 0x10] 0x4001100C (by decide)
  exact ⟨b, hb, hr.1.mpr hserves, (hr.2.2.2 _ hq).1⟩

end Bus

/-- A profile whose one window is five bytes of plain memory, with the LED's output register on
its fifth byte. -/
def Profile.shortRam : Profile where
  schemaVersion := "1.0"
  name := "ram5"
  chip := "stm32f103c8"
  description := none
  peripherals := [⟨"ram", "memory", none, 0x20000000, some "5B", resetTable [], none⟩]
  led := ⟨⟨0x20000000, 0⟩, ⟨0x20000000, 0, 2, 1⟩, ⟨0x20000004, 0⟩⟩
  delayCount := 500000

/-- **A declared address need not be served.** The five-byte memory window keeps one whole word,
so the LED's output register, on its fifth byte, lies in the window the profile finds for it and
passes validation, yet a direct read there is a memory violation. -/
theorem Bus.tail_bytes_unserved :
    ∃ b : Bus Unit, fromProfile Profile.shortRam () = .ok b ∧
      (∃ q, Profile.shortRam.peripheralAt 0x20000004 = .ok (some q) ∧ q.id = "ram") ∧
      b.readWord 0x20000004 = .ok (.error (.memoryViolation 0x20000004)) := by
  have hv : Profile.shortRam.validate = .ok () := by decide +kernel
  have hw : Profile.shortRam.peripherals.mapM windowOf =
      .ok [⟨"ram", 0x20000000, 5, none, [], .memory ⟨1, []⟩⟩] := by
    decide +kernel
  exact ⟨_, fromProfile_of_ok () hv hw, ⟨_, rfl, rfl⟩, by decide⟩

end Heartbeat
