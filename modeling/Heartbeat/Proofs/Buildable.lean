import Heartbeat.Proofs.Bounds

/-!
# When a valid profile gives a bus

Validation does not look at layouts or reset values; building the bus does. Each peripheral's
model is built from its kind, its layout name and its window size, and its reset values are then
forced into it in offset order. A GPIO port and an RCC block take a layout name that, trimmed and
in lower case, is one of their kind's spellings, and take a forced value at every offset; plain
memory ignores its layout and refuses a value past its whole words. So a valid profile gives a bus
exactly when every peripheral is `Buildable`, and otherwise the first peripheral that is not
decides the error: its layout's refusal, or else a memory violation at its least reset offset
past the window's words.

* `layoutKey`, `gpioLayoutNames`, `rccLayoutNames`, `layoutRefusal` : the layout names and the
  text of a refused one;
* `PeripheralSpec.LayoutOk`, `ResetOk`, `Buildable`, `Refusal`;
* `Device.build_ok_iff`, `Device.presetAll_none_iff`, `Device.presetAll_refused`;
* `Bus.windowOf_ok_iff`, `Bus.windowOf_refusal` : one peripheral's window;
* `Bus.fromProfile_ok_iff_buildable`.
-/

namespace Heartbeat

def layoutKey (l : String) : String := (Text.trim l).map Char.toLower

def gpioLayoutNames : List String :=
  ["stm32f1", "f1", "legacy", "stm32v2", "v2", "modern", "stm32f4", "stm32l4", "stm32h5"]

def rccLayoutNames : List String :=
  ["stm32f1", "f1", "legacy", "stm32f4", "f4", "stm32l4", "l4", "stm32h5", "h5"]

/-- What a GPIO port, or else an RCC block, says of a layout name it does not take. -/
def layoutRefusal (kind l : String) : String :=
  if kind = "gpio" then s!"unsupported GPIO register layout '{l}'; supported: stm32f1, stm32v2"
  else s!"unsupported RCC register layout '{l}'; supported: stm32f1, stm32f4, stm32l4, stm32h5"

theorem GpioLayout.parse_ok_iff (l : String) :
    (∃ x, GpioLayout.parse l = .ok x) ↔ layoutKey l ∈ gpioLayoutNames := by
  unfold GpioLayout.parse
  simp only [layoutKey, gpioLayoutNames, List.mem_cons, List.not_mem_nil, or_false]
  split_ifs with h1 h2 <;> simp_all <;> tauto

theorem GpioLayout.parse_error (l : String) (h : layoutKey l ∉ gpioLayoutNames) :
    GpioLayout.parse l = .error (layoutRefusal "gpio" l) := by
  unfold GpioLayout.parse
  simp only [layoutKey, gpioLayoutNames, List.mem_cons, List.not_mem_nil, or_false] at h
  dsimp only
  split_ifs with h1 h2 <;> simp_all [layoutRefusal]

theorem RccLayout.parse_ok_iff (l : String) :
    (∃ x, RccLayout.parse l = .ok x) ↔ layoutKey l ∈ rccLayoutNames := by
  unfold RccLayout.parse
  simp only [layoutKey, rccLayoutNames, List.mem_cons, List.not_mem_nil, or_false]
  split_ifs with h1 h2 <;> simp_all <;> tauto

theorem RccLayout.parse_error (l : String) (h : layoutKey l ∉ rccLayoutNames) :
    RccLayout.parse l = .error (layoutRefusal "rcc" l) := by
  unfold RccLayout.parse
  simp only [layoutKey, rccLayoutNames, List.mem_cons, List.not_mem_nil, or_false] at h
  dsimp only
  split_ifs with h1 h2 <;> simp_all [layoutRefusal]

namespace PeripheralSpec

/-- A port's or a clock block's layout is absent or one of its kind's names; a memory's may be
anything. -/
def LayoutOk (q : PeripheralSpec) : Prop :=
  ∀ l ∈ q.layout, (q.kind = "gpio" → layoutKey l ∈ gpioLayoutNames) ∧
    (q.kind = "rcc" → layoutKey l ∈ rccLayoutNames)

def InWords (size : UInt64) (k : UInt32) : Prop := k.toNat / 4 < size.toNat / 4

instance (size : UInt64) (k : UInt32) : Decidable (InWords size k) :=
  inferInstanceAs (Decidable (_ < _))

/-- A memory's reset values lie in the whole words of its window; a port or a clock block takes
any. -/
def ResetOk (q : PeripheralSpec) : Prop :=
  q.kind = "memory" → ∀ s, q.windowSize = .ok s → ∀ k ∈ q.resetValues.entries.map Prod.fst, InWords s k

def Buildable (q : PeripheralSpec) : Prop := q.LayoutOk ∧ q.ResetOk

/-- The error a peripheral with a window of `s` bytes that is not buildable is refused with: its
layout's refusal when the layout is wrong, and otherwise a memory violation at its least reset
offset outside the window's words. -/
def Refusal (q : PeripheralSpec) (s : UInt64) (e : BusError) : Prop :=
  (¬ q.LayoutOk → ∃ l, q.layout = some l ∧ e = .build q.id (.layout (layoutRefusal q.kind l))) ∧
  (q.LayoutOk → ∃ k ∈ q.resetValues.entries.map Prod.fst, e = .resetValue q.id (.memoryViolation k) ∧
    ¬ InWords s k ∧ ∀ k' ∈ q.resetValues.entries.map Prod.fst, ¬ InWords s k' → k ≤ k')

end PeripheralSpec

open PeripheralSpec

/-! ### Building a model and forcing its values -/

namespace Device

theorem presetAll_gpio_none (g : Gpio) : ∀ rv, (presetAll (.gpio g) rv).2 = none
  | [] => rfl
  | (off, v) :: rest => presetAll_gpio_none (g.preset off v) rest

theorem presetAll_rcc_none (r : Rcc) : ∀ rv, (presetAll (.rcc r) rv).2 = none
  | [] => rfl
  | (off, v) :: rest => presetAll_rcc_none (r.write off v) rest

theorem presetAll_memory (m : Memory) : ∀ rv, (presetAll (.memory m) rv).2 =
    (rv.find? fun e => !decide (e.1.toNat / 4 < m.count)).map fun e => .memoryViolation e.1
  | [] => rfl
  | (off, v) :: rest => by
    by_cases h : off.toNat / 4 < m.count
    · -- the value is written and the block keeps its words
      have ih := presetAll_memory ⟨m.count, setCell (off.toNat / 4) v m.cells⟩ rest
      simp only at ih
      simp [presetAll, preset, write, Memory.write, h, ih]
    · simp [presetAll, preset, write, Memory.write, h]

/-- A model of a known kind and of a size validation allows builds unless a port or a clock block
is given a layout name it does not take. -/
theorem build_ok_iff {kind : String} (hk : kind ∈ peripheralKinds) (layout : Option String)
    {size : UInt64} (hs : size.toNat < 2 ^ 63) :
    (∃ d, build kind layout size = .ok d) ↔ ∀ l ∈ layout,
      (kind = "gpio" → layoutKey l ∈ gpioLayoutNames) ∧
        (kind = "rcc" → layoutKey l ∈ rccLayoutNames) := by
  simp only [peripheralKinds, List.mem_cons, List.not_mem_nil, or_false] at hk
  rcases hk with rfl | rfl | rfl
  · cases layout with
    | none => simp [build]
    | some l =>
      simp only [Option.mem_def, Option.some.injEq, forall_eq', ← RccLayout.parse_ok_iff]
      cases hp : RccLayout.parse l <;> simp [build, hp]
  · cases layout with
    | none => simp [build]
    | some l =>
      simp only [Option.mem_def, Option.some.injEq, forall_eq', ← GpioLayout.parse_ok_iff]
      cases hp : GpioLayout.parse l <;> simp [build, hp]
  · have : ¬ 9223372036854775808 ≤ size.toNat := by omega
    simp [build, this]

theorem build_error {kind : String} (hk : kind ∈ peripheralKinds) {layout : Option String}
    {size : UInt64} (hs : size.toNat < 2 ^ 63) {e : BuildError}
    (h : build kind layout size = .error e) :
    ∃ l, layout = some l ∧ e = .layout (layoutRefusal kind l) := by
  simp only [peripheralKinds, List.mem_cons, List.not_mem_nil, or_false] at hk
  rcases hk with rfl | rfl | rfl
  · cases layout with
    | none => simp [build] at h
    | some l =>
      by_cases hl : layoutKey l ∈ rccLayoutNames
      · obtain ⟨x, hx⟩ := (RccLayout.parse_ok_iff l).mpr hl
        simp [build, hx] at h
      · simp only [build, RccLayout.parse_error l hl] at h
        simp at h
        exact ⟨l, rfl, h.symm⟩
  · cases layout with
    | none => simp [build] at h
    | some l =>
      by_cases hl : layoutKey l ∈ gpioLayoutNames
      · obtain ⟨x, hx⟩ := (GpioLayout.parse_ok_iff l).mpr hl
        simp [build, hx] at h
      · simp only [build, GpioLayout.parse_error l hl] at h
        simp at h
        exact ⟨l, rfl, h.symm⟩
  · have : ¬ 9223372036854775808 ≤ size.toNat := by omega
    simp [build, this] at h

/-- A freshly built model takes all its reset values exactly when, for plain memory, they lie in
its words. -/
theorem presetAll_none_iff {kind : String} {layout : Option String} {s : UInt64} {d : Device}
    (hd : build kind layout s = .ok d) (rv : List (UInt32 × UInt32)) :
    (presetAll d rv).2 = none ↔ (kind = "memory" → ∀ k ∈ rv.map Prod.fst, InWords s k) := by
  rcases build_memory hd with ⟨hk, rfl⟩ | ⟨hk, hd⟩
  · simp [presetAll_memory, hk, InWords, Memory.init, List.find?_eq_none]
  · cases d with
    | gpio g => simp [presetAll_gpio_none, hk]
    | rcc r => simp [presetAll_rcc_none, hk]
    | memory m => exact absurd rfl (hd m)

end Device

theorem find?_least {rv : List (UInt32 × UInt32)} (hs : (rv.map Prod.fst).Pairwise (· < ·))
    {p : UInt32 × UInt32 → Bool} {e : UInt32 × UInt32} (h : rv.find? p = some e) :
    ∀ e' ∈ rv, p e' = true → e.1 ≤ e'.1 := by
  obtain ⟨-, before, after, rfl, hbefore⟩ := List.find?_eq_some_iff_append.mp h
  intro e' he' hp
  rw [List.map_append, List.map_cons, List.pairwise_append, List.pairwise_cons] at hs
  rcases List.mem_append.mp he' with hb | ha
  · exact absurd hp (by simpa using hbefore e' hb)
  · rcases List.mem_cons.mp ha with rfl | ha
    · exact UInt32.le_refl _
    · exact UInt32.le_of_lt (hs.2.1.1 e'.1 (List.mem_map_of_mem ha))

namespace Device

/-- A freshly built model refuses reset values listed in increasing order at the least offset
past its words. -/
theorem presetAll_refused {kind : String} {layout : Option String} {s : UInt64} {d : Device}
    (hd : build kind layout s = .ok d) {rv : List (UInt32 × UInt32)}
    (hsorted : (rv.map Prod.fst).Pairwise (· < ·)) {f : Fault} (hf : (presetAll d rv).2 = some f) :
    ∃ k ∈ rv.map Prod.fst, f = .memoryViolation k ∧ ¬ InWords s k ∧
      ∀ k' ∈ rv.map Prod.fst, ¬ InWords s k' → k ≤ k' := by
  rcases build_memory hd with ⟨-, rfl⟩ | ⟨-, hd⟩
  · rw [presetAll_memory] at hf
    obtain ⟨e, he, rfl⟩ := Option.map_eq_some_iff.mp hf
    -- the test is read before `Memory.init` is unfolded, where its decision is still the one
    -- `decide_eq_false_iff_not` expects
    have hout := List.find?_some he
    simp only [Bool.not_eq_true', decide_eq_false_iff_not] at hout
    refine ⟨e.1, List.mem_map_of_mem (List.mem_of_find?_eq_some he), rfl, hout, ?_⟩
    intro k' hk' hnot
    obtain ⟨e', he', rfl⟩ := List.mem_map.mp hk'
    refine find?_least hsorted he e' he' ?_
    simp only [Bool.not_eq_true', decide_eq_false_iff_not]
    exact hnot
  · cases d with
    | gpio g => simp [presetAll_gpio_none] at hf
    | rcc r => simp [presetAll_rcc_none] at hf
    | memory m => exact absurd rfl (hd m)

end Device

/-! ### One peripheral, then the whole profile -/

namespace Bus

section Window

variable {q : PeripheralSpec} {s : UInt64} (hs : q.windowSize = .ok s)
  (hk : q.kind ∈ peripheralKinds) (hsz : s.toNat < 2 ^ 63)
include hs hk hsz

theorem windowOf_ok_iff : (∃ w, windowOf q = .ok w) ↔ q.Buildable := by
  have hlay : q.LayoutOk ↔ ∃ d, Device.build q.kind q.layout s = .ok d :=
    (Device.build_ok_iff hk q.layout hsz).symm
  cases hd : Device.build q.kind q.layout s with
  | error e =>
    have : ¬ q.LayoutOk := by simp [hlay, hd]
    simp [windowOf, hs, hd, Buildable, this]
  | ok d =>
    have hres : q.ResetOk ↔ (presetAll d q.resetValues.entries).2 = none := by
      rw [Device.presetAll_none_iff hd]
      simp [ResetOk, hs]
    have hl : q.LayoutOk := hlay.mpr ⟨d, hd⟩
    rcases hp : presetAll d q.resetValues.entries with ⟨d', _ | f⟩
    · simp [windowOf, hs, hd, hp, Buildable, hl, hres]
    · simp [windowOf, hs, hd, hp, Buildable, hl, hres]

theorem windowOf_refusal {e : BusError} (he : windowOf q = .error e) : q.Refusal s e := by
  have hlay : q.LayoutOk ↔ ∃ d, Device.build q.kind q.layout s = .ok d :=
    (Device.build_ok_iff hk q.layout hsz).symm
  cases hd : Device.build q.kind q.layout s with
  | error b =>
    have hnot : ¬ q.LayoutOk := by simp [hlay, hd]
    obtain ⟨l, hl, rfl⟩ := Device.build_error hk hsz hd
    simp only [windowOf, hs, hd, ok_eq_pure, ok_bind, throw_eq_error, error_bind,
      Except.error.injEq] at he
    exact ⟨fun _ => ⟨l, hl, he.symm⟩, fun h => absurd h hnot⟩
  | ok d =>
    have hl : q.LayoutOk := hlay.mpr ⟨d, hd⟩
    rcases hp : presetAll d q.resetValues.entries with ⟨d', _ | f⟩
    · simp [windowOf, hs, hd, hp] at he
    · simp only [windowOf, hs, hd, hp, ok_eq_pure, ok_bind, throw_eq_error,
        Except.error.injEq] at he
      obtain ⟨k, hk', rfl, hout, hleast⟩ := Device.presetAll_refused hd q.resetValues.sorted
        (by rw [hp])
      exact ⟨fun h => absurd hl h, fun _ => ⟨k, hk', he.symm, hout, hleast⟩⟩

end Window

end Bus

theorem mapM_first_error {ε α β : Type} {f : α → Except ε β} {x : α} {e : ε} (post : List α)
    (hx : f x = .error e) : ∀ {pre : List α}, (∀ y ∈ pre, ∃ b, f y = .ok b) →
      (pre ++ x :: post).mapM f = .error e
  | [], _ => by simp [List.mapM_cons, hx]
  | y :: pre, h => by
    obtain ⟨b, hb⟩ := h y List.mem_cons_self
    rw [List.cons_append, List.mapM_cons, hb, ok_bind,
      mapM_first_error post hx fun z hz => h z (List.mem_cons_of_mem y hz)]
    rfl

theorem Profile.sized_of_validate {p : Profile} (hv : p.validate = .ok ()) {q : PeripheralSpec}
    (hq : q ∈ p.peripherals) :
    ∃ s, q.windowSize = .ok s ∧ q.kind ∈ peripheralKinds ∧ s.toNat < 2 ^ 63 := by
  have hvalid := (validate_ok_iff p).mp hv
  obtain ⟨s, hs, -, hend⟩ := hvalid.sizes q hq
  exact ⟨s, hs, hvalid.kinds q hq, by omega⟩

namespace Bus

variable {ω : Type}

/-- **A profile gives a bus exactly when it is valid and every peripheral is buildable**: a port
or a clock block names a layout of its kind or none, a memory's reset values lie in its words.
When a valid profile gives none, the first peripheral that is not buildable names the error, its
layout before its reset values, and then the least reset offset past the words. -/
theorem fromProfile_ok_iff_buildable (p : Profile) (watch : ω) :
    ((∃ b, fromProfile p watch = .ok b) ↔
      p.validate = .ok () ∧ ∀ q ∈ p.peripherals, q.Buildable) ∧
    ∀ pre q post, p.validate = .ok () → p.peripherals = pre ++ q :: post →
      (∀ r ∈ pre, r.Buildable) → ¬ q.Buildable →
      ∃ s e, q.windowSize = .ok s ∧ fromProfile p watch = .error e ∧ q.Refusal s e := by
  have hbuilds : p.validate = .ok () →
      ∀ q ∈ p.peripherals, (∃ w, windowOf q = .ok w) ↔ q.Buildable := by
    intro hv q hq
    obtain ⟨s, hs, hk, hsz⟩ := Profile.sized_of_validate hv hq
    exact windowOf_ok_iff hs hk hsz
  refine ⟨⟨fun ⟨b, hb⟩ => ?_, fun ⟨hv, hall⟩ => ?_⟩, ?_⟩
  · obtain ⟨hv, ws, hws, -⟩ := fromProfile_ok hb
    refine ⟨hv, fun q hq => (hbuilds hv q hq).mp ?_⟩
    obtain ⟨i, hi⟩ := List.getElem?_of_mem hq
    obtain ⟨w, -, hw⟩ := Forall₂.getElem? (mapM_forall₂ hws) hi
    exact ⟨w, hw⟩
  · obtain ⟨ws, hws⟩ := mapM_ok fun q hq => (hbuilds hv q hq).mpr (hall q hq)
    exact ⟨_, fromProfile_of_ok watch hv hws⟩
  · intro pre q post hv hps hpre hq
    have hmem : q ∈ p.peripherals := by rw [hps]; simp
    obtain ⟨s, hs, hk, hsz⟩ := Profile.sized_of_validate hv hmem
    obtain ⟨e, he⟩ : ∃ e, windowOf q = .error e := by
      cases h : windowOf q with
      | error e => exact ⟨e, rfl⟩
      | ok w => exact absurd ((windowOf_ok_iff hs hk hsz).mp ⟨w, h⟩) hq
    have hws : p.peripherals.mapM windowOf = .error e := by
      rw [hps]
      exact mapM_first_error post he fun r hr =>
        (hbuilds hv r (by rw [hps]; exact List.mem_append_left _ hr)).mpr (hpre r hr)
    refine ⟨s, e, hs, ?_, windowOf_refusal hs hk hsz he⟩
    simp [fromProfile, hv, hws]

end Bus

/-- A 1 KiB memory window whose last two reset values lie past its end. -/
def Profile.sramTail : PeripheralSpec :=
  { id := "sram", kind := "memory", layout := none, base := 0x20000000, size := none,
    resetValues := resetTable [(0x3FC, 1), (0x400, 2), (0x404, 3)], gate := none }

/-- A board whose only window is `sramTail`, with the LED in its first two words. -/
def Profile.sramBoard : Profile :=
  { schemaVersion := supportedSchema, name := "sram", chip := "stm32f103c8", description := none,
    peripherals := [Profile.sramTail],
    led := ⟨⟨0x20000000, 0⟩, ⟨0x20000000, 0, 2, 1⟩, ⟨0x20000004, 0⟩⟩, delayCount := 500000 }

theorem Bus.fromProfile_ok_iff_buildable_sramBoard :
    Profile.sramBoard.validate = .ok () ∧ ¬ Profile.sramTail.Buildable ∧
      ∃ s e, Profile.sramTail.windowSize = .ok s ∧
        Bus.fromProfile Profile.sramBoard () = .error e ∧ Profile.sramTail.Refusal s e := by
  have hv : Profile.sramBoard.validate = .ok () := by decide +kernel
  have hq : ¬ Profile.sramTail.Buildable := by
    rintro ⟨-, hres⟩
    have := hres rfl 0x400 rfl 0x400 (by decide)
    revert this
    decide
  exact ⟨hv, hq, (Bus.fromProfile_ok_iff_buildable Profile.sramBoard ()).2 [] Profile.sramTail []
    hv rfl (by simp) hq⟩

end Heartbeat
