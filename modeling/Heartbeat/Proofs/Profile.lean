import Heartbeat.Bus.Build
import Heartbeat.Proofs.Access

/-!
# What validation guarantees about a profile's bus

A profile that passes validation describes a bus that can always be searched and whose windows
share no address. Every peripheral's window ends by `2^32`. Validation compares only neighbours,
in the order of start, end and id; since each window ends no earlier than it starts, neighbours
that do not overlap make a chain in which each window ends before every later one starts. The
order itself plays no part: the sorted list is a permutation of the declared one.

The bus of a valid profile holds one window per peripheral, in declaration order, with the
peripheral's id, base, size and gate, and its model built and preset; a profile with no
peripheral gets a memory cell at each LED register.

* `Span.Apart`, `pairwise_of_firstOverlap` : neighbours apart make all pairs apart;
* `Window.span`, `Window.Apart`, `firstHolding_of_apart` : among windows that share no address,
  the one holding an address is the first to;
* `Bus.windowOf_ok`, `Bus.fromProfile_ok`, `Bus.fromProfile_of_ok` : the window of a peripheral,
  the bus of a profile, and the bus a valid profile gives;
* `Profile.validate_ok`, `Profile.validate_apart` : what validation checks, and the windows it
  keeps apart;
* `Bus.fromProfile_fits`, `Bus.fromProfile_apart` : the bus can be searched, its windows share no
  address.
-/

namespace Heartbeat

theorem mapM_forall₂ {ε α β : Type} {f : α → Except ε β} :
    ∀ {l : List α} {l' : List β}, l.mapM f = .ok l' → List.Forall₂ (fun a b => f a = .ok b) l l'
  | [], l', h => by
    simp only [List.mapM_nil, ok_eq_pure, Except.ok.injEq] at h
    subst h
    exact .nil
  | a :: l, l', h => by
    rw [List.mapM_cons, bind_eq_ok] at h
    obtain ⟨b, hb, h⟩ := h
    rw [bind_eq_ok] at h
    obtain ⟨bs, hbs, h⟩ := h
    simp only [ok_eq_pure, Except.ok.injEq] at h
    subst h
    exact .cons hb (mapM_forall₂ hbs)

theorem Forall₂.getElem? {α β : Type} {R : α → β → Prop} {l : List α} {l' : List β}
    (h : List.Forall₂ R l l') {i : Nat} {a : α} (hi : l[i]? = some a) :
    ∃ b, l'[i]? = some b ∧ R a b := by
  obtain ⟨hlen, hget⟩ := List.forall₂_iff_get.mp h
  obtain ⟨hil, rfl⟩ := List.getElem?_eq_some_iff.mp hi
  exact ⟨l'[i], List.getElem?_eq_getElem (hlen ▸ hil), hget i hil (hlen ▸ hil)⟩

namespace Span

/-- Two spans share no address. -/
def Apart (a b : Span) : Prop := a.stop ≤ b.start ∨ b.stop ≤ a.start

theorem Apart.symm {a b : Span} (h : a.Apart b) : b.Apart a := Or.symm h

end Span

/-- Neighbours that do not overlap, in a list of spans that each end no earlier than they start:
every span ends before each later one starts. -/
theorem pairwise_of_firstOverlap :
    ∀ {l : List Span}, (∀ s ∈ l, s.start ≤ s.stop) → Profile.firstOverlap l = none →
      l.Pairwise (fun a b => a.stop ≤ b.start)
  | [], _, _ => .nil
  | [_], _, _ => List.pairwise_singleton _ _
  | a :: b :: rest, hl, h => by
    have hab : a.stop ≤ b.start := by
      by_contra hlt
      simp [Profile.firstOverlap, Nat.lt_of_not_le hlt] at h
    have hrest : Profile.firstOverlap (b :: rest) = none := by
      simpa [Profile.firstOverlap, Nat.not_lt.mpr hab] using h
    have ih := pairwise_of_firstOverlap (fun s hs => hl s (List.mem_cons_of_mem a hs)) hrest
    have hb : b.start ≤ b.stop := hl b (by simp)
    refine List.Pairwise.cons (fun c hc => ?_) ih
    rcases List.mem_cons.mp hc with rfl | hc
    · exact hab
    · have := List.rel_of_pairwise_cons ih hc
      omega

namespace Window

/-- The addresses a window covers, as a span named by the window. -/
def span (w : Window) : Span := ⟨w.base.toNat, w.base.toNat + w.size.toNat, w.name⟩

/-- Two windows share no address. -/
def Apart (u w : Window) : Prop := u.span.Apart w.span

theorem Apart.not_holds {u w : Window} (h : u.Apart w) {a : UInt32} (hw : w.Holds a) :
    ¬ u.Holds a := by
  intro hu
  unfold Apart Span.Apart span at h
  unfold Holds at hu hw
  simp only at h
  omega

end Window

theorem firstHolding_of_apart {ws : List Window} (hp : ws.Pairwise Window.Apart) {a : UInt32}
    {i : Nat} {w : Window} (hi : ws[i]? = some w) (ha : w.Holds a) : FirstHolding ws a i w := by
  refine ⟨hi, ha, fun u hu => ?_⟩
  obtain ⟨hil, rfl⟩ := List.getElem?_eq_some_iff.mp hi
  have hsplit : (ws.take i ++ ws.drop i).Pairwise Window.Apart := by
    rwa [List.take_append_drop]
  have hw : ws[i] ∈ ws.drop i := by
    rw [List.drop_eq_getElem_cons hil]
    exact List.mem_cons_self
  exact ((List.pairwise_append.mp hsplit).2.2 u hu ws[i] hw).not_holds ha

namespace Bus

/-- The window of a peripheral: its id, base, size, gate and reset values, and the model its kind,
layout and size build, with the reset values forced. -/
theorem windowOf_eq {q : PeripheralSpec} {w : Window} (h : windowOf q = .ok w) :
    ∃ size d, q.windowSize = .ok size ∧ Device.build q.kind q.layout size = .ok d ∧
      presetAll d q.resetValues.entries = (w.device, none) ∧
      w = ⟨q.id, q.base, size, q.gate.bind (fun g => ClockGate.bit? ⟨g.register⟩ g.bit),
        q.resetValues.entries, w.device⟩ := by
  unfold windowOf at h
  cases hs : q.windowSize with
  | error e => simp [hs] at h
  | ok size =>
    cases hd : Device.build q.kind q.layout size with
    | error e => simp [hs, hd] at h
    | ok d =>
      cases hp : presetAll d q.resetValues.entries with
      | mk d' f =>
        cases f with
        | some f => simp [hs, hd, hp] at h
        | none =>
          simp only [hs, hd, hp, ok_bind, ok_eq_pure, Except.ok.injEq] at h
          subst h
          exact ⟨size, d, rfl, hd, hp, rfl⟩

theorem windowOf_ok {q : PeripheralSpec} {w : Window} (h : windowOf q = .ok w) :
    q.windowSize = .ok w.size ∧ w.name = q.id ∧ w.base = q.base ∧
      w.gate = q.gate.bind (fun g => ClockGate.bit? ⟨g.register⟩ g.bit) ∧
      ∃ d, Device.build q.kind q.layout w.size = .ok d ∧
        presetAll d q.resetValues.entries = (w.device, none) := by
  obtain ⟨size, d, hs, hd, hp, hw⟩ := windowOf_eq h
  rw [hw]
  exact ⟨hs, rfl, rfl, rfl, d, hd, hp⟩

/-- The bus of a profile: the profile is valid, and the bus is empty but for one window per
peripheral, or one memory cell per LED register when there is no peripheral. -/
theorem fromProfile_ok {ω : Type} {p : Profile} {watch : ω} {b : Bus ω}
    (h : fromProfile p watch = .ok b) :
    p.validate = .ok () ∧ ∃ ws, p.peripherals.mapM windowOf = .ok ws ∧
      b = { Bus.empty p.name watch with
        windows := if ws.isEmpty then (ledRegisters p.led).map memoryCell else ws } := by
  unfold fromProfile at h
  cases hv : p.validate with
  | error e => simp [hv] at h
  | ok u =>
    cases hw : p.peripherals.mapM windowOf with
    | error e => simp [hv, hw] at h
    | ok ws =>
      simp only [hv, hw, ok_bind, ok_eq_pure, Except.ok.injEq] at h
      exact ⟨rfl, ws, rfl, h.symm⟩

theorem fromProfile_of_ok {ω : Type} {p : Profile} (watch : ω) {ws : List Window}
    (hv : p.validate = .ok ()) (hw : p.peripherals.mapM windowOf = .ok ws) :
    fromProfile p watch = .ok { Bus.empty p.name watch with
      windows := if ws.isEmpty then (ledRegisters p.led).map memoryCell else ws } := by
  simp only [fromProfile, hv, hw, ok_bind, ok_eq_pure]

end Bus

namespace Profile

theorem checkPeripheral_ok {seen : List String} {q : PeripheralSpec} {s : Span}
    (h : checkPeripheral seen q = .ok s) :
    ∃ size, q.windowSize = .ok size ∧ 0 < size.toNat ∧ q.base.toNat + size.toNat ≤ 2 ^ 32 ∧
      s = ⟨q.base.toNat, q.base.toNat + size.toNat, q.id⟩ := by
  cases hw : q.windowSize with
  | error e =>
    simp [checkPeripheral, hw] at h
    split_ifs at h
    grind
  | ok size =>
    simp [checkPeripheral, hw] at h
    refine ⟨size, rfl, ?_⟩
    split_ifs at h <;> grind

theorem checkPeripherals_spans :
    ∀ {seen : List String} {ps : List PeripheralSpec} {spans : List Span} {ws : List Window},
      checkPeripherals seen ps = .ok spans → ps.mapM Bus.windowOf = .ok ws →
      spans = ws.map Window.span ∧ ∀ w ∈ ws, w.span.stop ≤ 2 ^ 32
  | _, [], spans, ws, h, hw => by
    simp only [checkPeripherals, Except.ok.injEq] at h
    simp only [List.mapM_nil, ok_eq_pure, Except.ok.injEq] at hw
    subst h hw
    simp
  | seen, q :: ps, spans, ws, h, hw => by
    simp only [checkPeripherals] at h
    rw [bind_eq_ok] at h
    obtain ⟨s, hs, h⟩ := h
    rw [bind_eq_ok] at h
    obtain ⟨ss, hss, h⟩ := h
    simp only [ok_eq_pure, Except.ok.injEq] at h
    rw [List.mapM_cons, bind_eq_ok] at hw
    obtain ⟨w, hwq, hw⟩ := hw
    rw [bind_eq_ok] at hw
    obtain ⟨ws', hws', hw⟩ := hw
    simp only [ok_eq_pure, Except.ok.injEq] at hw
    subst h hw
    obtain ⟨size, hsize, -, hend, rfl⟩ := checkPeripheral_ok hs
    obtain ⟨hsz, hname, hbase, -⟩ := Bus.windowOf_ok hwq
    obtain ⟨ih, ihend⟩ := checkPeripherals_spans hss hws'
    rw [hsize, Except.ok.injEq] at hsz
    have hspan : w.span = ⟨q.base.toNat, q.base.toNat + size.toNat, q.id⟩ := by
      simp [Window.span, hname, hbase, hsz]
    refine ⟨by rw [List.map_cons, hspan, ih], ?_⟩
    intro u hu
    rcases List.mem_cons.mp hu with rfl | hu
    · rw [hspan]; exact hend
    · exact ihend u hu

/-- What a valid profile passed: the LED checks, the checks on each peripheral, no two
neighbouring windows overlapping, and, when peripherals are declared, each LED register mapped. -/
theorem validate_ok {p : Profile} (h : p.validate = .ok ()) :
    checkLed p.led = .ok () ∧ ∃ spans, checkPeripherals [] p.peripherals = .ok spans ∧
      firstOverlap (spans.mergeSort Span.le) = none ∧
      (p.peripherals ≠ [] → p.checkMapped = .ok ()) := by
  simp [validate] at h
  split_ifs at h with hs hn hp <;>
  · obtain ⟨u, hled, h⟩ := bind_eq_ok.mp h
    obtain ⟨spans, hspans, h⟩ := bind_eq_ok.mp h
    cases hov : firstOverlap (spans.mergeSort Span.le) with
    | some ab =>
      obtain ⟨a, b⟩ := ab
      simp [hov] at h
    | none =>
      simp only [hov] at h
      refine ⟨hled, spans, hspans, hov, fun hne => ?_⟩
      simp_all

theorem checkLed_aligned {led : LedSpec} (h : checkLed led = .ok ()) :
    led.clock.register % 4 = 0 ∧ led.mode.register % 4 = 0 ∧ led.output.register % 4 = 0 := by
  simp [checkLed] at h
  split_ifs at h <;> simp_all

theorem checkMapped_ok {p : Profile} (h : p.checkMapped = .ok ()) :
    ∀ r ∈ [p.led.clock.register, p.led.mode.register, p.led.output.register],
      ∃ q, p.peripheralAt r = .ok (some q) := by
  simp [checkMapped] at h
  split at h <;> simp_all
  split at h <;> simp_all
  split at h <;> simp_all

theorem peripheralAt_go_some {a : UInt32} {q : PeripheralSpec} :
    ∀ {ps : List PeripheralSpec}, peripheralAt.go a ps = .ok (some q) →
      q ∈ ps ∧ ∃ size, q.windowSize = .ok size ∧ q.contains a size = true
  | [], h => by simp [peripheralAt.go] at h
  | r :: rest, h => by
    rw [peripheralAt.go, bind_eq_ok] at h
    obtain ⟨size, hsize, h⟩ := h
    by_cases hc : r.contains a size = true
    · simp only [hc, if_true, ok_eq_pure, Except.ok.injEq, Option.some.injEq] at h
      subst h
      exact ⟨List.mem_cons_self, size, hsize, hc⟩
    · simp only [hc, Bool.false_eq_true, if_false] at h
      obtain ⟨hq, hsize'⟩ := peripheralAt_go_some h
      exact ⟨List.mem_cons_of_mem r hq, hsize'⟩

/-- The windows of a valid profile's peripherals share no address and end by `2^32`. -/
theorem validate_apart {p : Profile} (h : p.validate = .ok ()) {ws : List Window}
    (hw : p.peripherals.mapM Bus.windowOf = .ok ws) :
    ws.Pairwise Window.Apart ∧ ∀ w ∈ ws, w.span.stop ≤ 2 ^ 32 := by
  obtain ⟨-, spans, hs, hov, -⟩ := validate_ok h
  obtain ⟨rfl, hend⟩ := checkPeripherals_spans hs hw
  have hperm := List.mergeSort_perm (ws.map Window.span) Span.le
  have hle : ∀ s ∈ (ws.map Window.span).mergeSort Span.le, s.start ≤ s.stop := by
    intro s hs
    obtain ⟨w, -, rfl⟩ := List.mem_map.mp (hperm.mem_iff.mp hs)
    simp [Window.span]
  have hsorted : ((ws.map Window.span).mergeSort Span.le).Pairwise Span.Apart :=
    (pairwise_of_firstOverlap hle hov).imp Or.inl
  have hspans := (hperm.pairwise_iff Span.Apart.symm).mp hsorted
  rw [List.pairwise_map] at hspans
  exact ⟨hspans, hend⟩

end Profile

namespace Bus

variable {ω : Type} {p : Profile} {watch : ω} {b : Bus ω}

/-- The bus of a profile can always be searched: each peripheral's window ends by `2^32`, and each
memory cell four bytes after a 32-bit address. -/
theorem fromProfile_fits (h : fromProfile p watch = .ok b) : b.Fits := by
  obtain ⟨hv, ws, hws, rfl⟩ := fromProfile_ok h
  intro w hw
  split at hw
  · obtain ⟨r, -, rfl⟩ := List.mem_map.mp hw
    have := r.toNat_lt
    simp only [Window.Fits, memoryCell]
    simp only [UInt64.reduceToNat]
    omega
  · have := (Profile.validate_apart hv hws).2 w hw
    simp only [Window.span] at this
    simp only [Window.Fits]
    omega

theorem fromProfile_windows (h : fromProfile p watch = .ok b) (hp : p.peripherals ≠ []) :
    p.peripherals.mapM windowOf = .ok b.windows := by
  obtain ⟨-, ws, hws, rfl⟩ := fromProfile_ok h
  have hne : ws ≠ [] := by
    intro hnil
    subst hnil
    exact hp (List.length_eq_zero_iff.mp (mapM_forall₂ hws).length_eq)
  simpa [Bus.empty, hne] using hws

theorem fromProfile_apart (h : fromProfile p watch = .ok b) (hp : p.peripherals ≠ []) :
    b.windows.Pairwise Window.Apart :=
  (Profile.validate_apart (fromProfile_ok h).1 (fromProfile_windows h hp)).1

end Bus

end Heartbeat
