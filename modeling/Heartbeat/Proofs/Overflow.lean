import Heartbeat.Cli.Commands
import Heartbeat.Proofs.Bounds
import Heartbeat.Proofs.Events

/-!
# What overflows, and what cannot

Two sums can overflow 64 bits: the end `base + size` of a window, where validation compares it
with `2^32` and the bus searches it, and the cycle counter's tick. Both stop the program, and
nothing else does.

Validation stops only on a window whose end passes `2^64`, which takes a size within `2^32` of
the 64-bit maximum at a non-zero base (`Profile.validate_aborts_at_overflow`); a window that ends
past `2^32` but inside 64 bits is refused as out of range (`Profile.validate_past_range`).

A bus whose windows end inside 64 bits answers every query (`Bus.Answers`), and a run of
operations stops it exactly when the accesses counted since the last reset that took reach
`2^64` (`Bus.performAll_count`, with `BusOp.count` the count after one operation).
-/

namespace Heartbeat

/-- The two profile errors that stop the program: a size text cut inside a character, and a
window whose end does not fit in 64 bits. -/
theorem Cli.aborts_iff (e : ProfileError) :
    Cli.aborts e = true ↔
      (∃ id, e = .badSize id .splitInsideChar) ∨ ∃ id, e = .windowEndOverflow id := by
  cases e with
  | badSize id err => cases err <;> simp [Cli.aborts]
  | _ => simp [Cli.aborts]

theorem Check.firstFailing_some {cs : List Check} {e : ProfileError}
    (h : Check.firstFailing cs = some e) : ∃ c ∈ cs, c.holds = false ∧ c.error = e := by
  obtain ⟨c, hc, rfl⟩ := Option.map_eq_some_iff.mp h
  exact ⟨c, List.mem_of_find?_eq_some hc, by simpa using List.find?_some hc, rfl⟩

theorem mem_peripheralsChecks {c : Check} : ∀ {seen : List String} {ps : List PeripheralSpec},
    c ∈ peripheralsChecks seen ps → ∃ q ∈ ps, ∃ seen', c ∈ peripheralChecks seen' q
  | _, [], h => by simp [peripheralsChecks] at h
  | seen, q :: ps, h => by
    rcases List.mem_append.mp h with h | h
    · exact ⟨q, List.mem_cons_self, seen, h⟩
    · obtain ⟨r, hr, seen', h⟩ := mem_peripheralsChecks h
      exact ⟨r, List.mem_cons_of_mem q hr, seen', h⟩

theorem aborts_of_peripheralChecks {seen : List String} {q : PeripheralSpec} {c : Check}
    (hc : c ∈ peripheralChecks seen q) (ha : Cli.aborts c.error = true) :
    (∃ s, q.windowSize = .ok s ∧
      c = ⟨decide (q.base.toNat + s.toNat < 2 ^ 64), .windowEndOverflow q.id⟩) ∨
      q.windowSize = .error .splitInsideChar := by
  -- the checks on a peripheral are at most seven, fixed once its size and gate are known
  rcases hw : q.windowSize with e | s <;> rcases hg : q.gate with _ | g <;>
    simp only [peripheralChecks, PeripheralSpec.gateChecks, PeripheralSpec.sizeChecks, hw, hg,
      List.cons_append, List.nil_append, List.mem_cons, List.not_mem_nil, or_false] at hc <;>
    rcases hc with rfl | rfl | rfl | rfl | rfl | rfl | rfl <;>
    simp_all [Cli.aborts_iff]

namespace Profile

theorem checkPeripheral_past_range {seen : List String} {q : PeripheralSpec} {s : UInt64}
    (hid : q.id ∉ seen) (hkind : q.kind ∈ peripheralKinds)
    (hgate : ∀ g ∈ q.gate, g.bit.toNat < 32 ∧ g.register.toNat % 4 = 0)
    (hs : q.windowSize = .ok s) (hpos : 0 < s.toNat) (hend : 2 ^ 32 < q.base.toNat + s.toNat) :
    checkPeripheral seen q = .error (if q.base.toNat + s.toNat < 2 ^ 64
      then .windowOutOfRange q.id else .windowEndOverflow q.id) := by
  have hgate' : ∀ g ∈ q.gate, ¬ g.bit ≥ 32 ∧ ¬ (g.register % 4 != 0) = true := by
    intro g hg
    rw [ge_32_iff, unaligned_iff]
    simpa using hgate g hg
  have hrange : (if 2 ^ 64 ≤ q.base.toNat + s.toNat
      then Except.error (ProfileError.windowEndOverflow q.id)
      else if 2 ^ 32 < q.base.toNat + s.toNat then .error (.windowOutOfRange q.id)
      else (.ok ⟨q.base.toNat, q.base.toNat + s.toNat, q.id⟩ : Except ProfileError Span)) =
      .error (if q.base.toNat + s.toNat < 2 ^ 64 then .windowOutOfRange q.id
        else .windowEndOverflow q.id) := by
    by_cases h64 : q.base.toNat + s.toNat < 2 ^ 64
    · rw [if_neg (Nat.not_le.mpr h64), if_pos hend, if_pos h64]
    · rw [if_pos (Nat.le_of_not_lt h64), if_neg h64]
  cases hg : q.gate with
  | none =>
    simp only [checkPeripheral, hg]
    simpa [hs, hid, hkind, Nat.pos_iff_ne_zero.mp hpos] using hrange
  | some g =>
    obtain ⟨hb, hr⟩ := hgate' g (by simp [hg])
    simp only [checkPeripheral, hg]
    simpa [hs, hid, hkind, Nat.pos_iff_ne_zero.mp hpos, hb, hr] using hrange

theorem aborts_of_checklist {p : Profile} {c : Check} (hc : c ∈ p.checklist)
    (ha : Cli.aborts c.error = true) : ∃ q ∈ p.peripherals,
      (∃ s, q.windowSize = .ok s ∧
        c = ⟨decide (q.base.toNat + s.toNat < 2 ^ 64), .windowEndOverflow q.id⟩) ∨
      q.windowSize = .error .splitInsideChar := by
  simp only [checklist, List.mem_append, List.mem_cons, List.not_mem_nil, or_false] at hc
  rcases hc with ((((hc | hc) | hc) | hc) | hc) | hc
  · subst hc; simp [Cli.aborts_iff] at ha
  · subst hc; simp [Cli.aborts_iff] at ha
  · simp only [ledChecks, LedSpec.registers, List.map_cons, List.map_nil, List.cons_append,
      List.nil_append, List.mem_cons, List.not_mem_nil, or_false] at hc
    rcases hc with rfl | rfl | rfl | rfl | rfl | rfl | rfl <;> simp [Cli.aborts_iff] at ha
  · obtain ⟨q, hq, seen, hc⟩ := mem_peripheralsChecks hc
    exact ⟨q, hq, aborts_of_peripheralChecks hc ha⟩
  · subst hc; simp [Cli.aborts_iff] at ha
  · unfold mappedChecks at hc
    split at hc
    · simp at hc
    · obtain ⟨r, -, rfl⟩ := List.mem_map.mp hc
      simp [Cli.aborts_iff] at ha

theorem checkPeripherals_stops {q : PeripheralSpec} {e : ProfileError} (post : List PeripheralSpec) :
    ∀ {seen : List String} {pre : List PeripheralSpec} {spans : List Span},
      checkPeripherals seen pre = .ok spans →
      checkPeripheral ((pre.map (·.id)).reverse ++ seen) q = .error e →
      checkPeripherals seen (pre ++ q :: post) = .error e
  | seen, [], _, _, hq => by
    simp only [List.map_nil, List.reverse_nil, List.nil_append] at hq
    simp [checkPeripherals, hq]
  | seen, r :: pre, spans, h, hq => by
    obtain ⟨sp, hr, h⟩ := bind_eq_ok.mp h
    obtain ⟨rest, hrest, -⟩ := bind_eq_ok.mp h
    have hq' : checkPeripheral ((pre.map (·.id)).reverse ++ r.id :: seen) q = .error e := by
      simpa using hq
    simp [checkPeripherals, hr, checkPeripherals_stops post hrest hq']

/-- **A window past the address space is refused for that, or stops validation.** When every
check before a peripheral's range check passes and its window ends past `2^32`, validation
reports `windowOutOfRange` if the end fits in 64 bits, and otherwise the overflow of its end. -/
theorem validate_past_range (p : Profile) {pre post : List PeripheralSpec} {q : PeripheralSpec}
    {s : UInt64} (hps : p.peripherals = pre ++ q :: post)
    (hschema : p.schemaVersion = supportedSchema)
    (hname : ∃ c ∈ p.name.toList, Text.isBlank c = false)
    (hled : ∀ c ∈ ledChecks p.led, c.holds = true)
    (hpre : ∀ c ∈ peripheralsChecks [] pre, c.holds = true)
    (hid : q.id ∉ pre.map (·.id)) (hkind : q.kind ∈ peripheralKinds)
    (hgate : ∀ g ∈ q.gate, g.bit.toNat < 32 ∧ g.register.toNat % 4 = 0)
    (hs : q.windowSize = .ok s) (hpos : 0 < s.toNat) (hend : 2 ^ 32 < q.base.toNat + s.toNat) :
    p.validate = .error (if q.base.toNat + s.toNat < 2 ^ 64
      then .windowOutOfRange q.id else .windowEndOverflow q.id) := by
  have hcl : checkLed p.led = .ok () := by rw [checkLed_eq_run, Check.run_eq_ok]; exact hled
  obtain ⟨spans, hspans⟩ : ∃ spans, checkPeripherals [] pre = .ok spans := by
    have h := checkPeripherals_map [] pre
    rw [Check.run_eq_ok.mpr hpre] at h
    cases hc : checkPeripherals [] pre with
    | error e => rw [hc] at h; cases h
    | ok spans => exact ⟨spans, rfl⟩
  have hq : checkPeripheral ((pre.map (·.id)).reverse ++ []) q = .error (if q.base.toNat + s.toNat
      < 2 ^ 64 then .windowOutOfRange q.id else .windowEndOverflow q.id) :=
    checkPeripheral_past_range (by simpa using hid) hkind hgate hs hpos hend
  have hname' : ¬ (Text.trim p.name).isEmpty = true := by rw [trim_isEmpty_iff]; simpa using hname
  simp [validate, hschema, hname', hcl, hps, checkPeripherals_stops post hspans hq]

/-- A validation error that stops the program, when no size text is cut inside a character, is
the overflow of a window's end: a size within `2^32` of the 64-bit maximum at a non-zero base. -/
theorem validate_aborts_at_overflow {p : Profile} {e : ProfileError} (hv : p.validate = .error e)
    (ha : Cli.aborts e = true)
    (hsize : ∀ q ∈ p.peripherals, q.windowSize ≠ .error .splitInsideChar) :
    ∃ q ∈ p.peripherals, ∃ s, q.windowSize = .ok s ∧ e = .windowEndOverflow q.id ∧
      2 ^ 64 ≤ q.base.toNat + s.toNat ∧ 0 < q.base.toNat ∧ 2 ^ 64 - 2 ^ 32 < s.toNat := by
  rw [validate_eq_run, Check.run_eq_error] at hv
  obtain ⟨c, hc, hfail, rfl⟩ := Check.firstFailing_some hv
  obtain ⟨q, hq, hcase⟩ := aborts_of_checklist hc ha
  rcases hcase with ⟨s, hs, rfl⟩ | hsplit
  · have hend : 2 ^ 64 ≤ q.base.toNat + s.toNat := by simpa using hfail
    have hb := q.base.toNat_lt
    have hs64 := s.toNat_lt
    exact ⟨q, hq, s, hs, rfl, hend, by omega, by omega⟩
  · exact absurd hsplit (hsize q hq)

theorem validate_aborts_only_past_64_bits (p : Profile) :
    (∀ e, p.validate = .error e → Cli.aborts e = true →
      (∀ q ∈ p.peripherals, q.windowSize ≠ .error .splitInsideChar) →
      ∃ q ∈ p.peripherals, ∃ s, q.windowSize = .ok s ∧ e = .windowEndOverflow q.id ∧
        2 ^ 64 ≤ q.base.toNat + s.toNat ∧ 0 < q.base.toNat ∧ 2 ^ 64 - 2 ^ 32 < s.toNat) ∧
    ∀ pre q post s, p.peripherals = pre ++ q :: post → p.schemaVersion = supportedSchema →
      (∃ c ∈ p.name.toList, Text.isBlank c = false) → (∀ c ∈ ledChecks p.led, c.holds = true) →
      (∀ c ∈ peripheralsChecks [] pre, c.holds = true) → q.id ∉ pre.map (·.id) →
      q.kind ∈ peripheralKinds → (∀ g ∈ q.gate, g.bit.toNat < 32 ∧ g.register.toNat % 4 = 0) →
      q.windowSize = .ok s → 0 < s.toNat → 2 ^ 32 < q.base.toNat + s.toNat →
      p.validate = .error (if q.base.toNat + s.toNat < 2 ^ 64
        then .windowOutOfRange q.id else .windowEndOverflow q.id) :=
  ⟨fun _ hv ha hsize => validate_aborts_at_overflow hv ha hsize,
    fun _ _ _ _ hps hschema hname hled hpre hid hkind hgate hs hpos hend =>
      validate_past_range p hps hschema hname hled hpre hid hkind hgate hs hpos hend⟩

/-- A RAM window whose size text saturates to the largest 64-bit size. -/
def hugeRam : PeripheralSpec :=
  { id := "ram", kind := "memory", layout := none, base := 0x20000000, size := some "100YiB",
    resetValues := resetTable [], gate := none }

def hugeRamBoard : Profile :=
  { schemaVersion := supportedSchema, name := "huge", chip := "stm32f103c8", description := none,
    peripherals := [hugeRam],
    led := ⟨⟨0x20000000, 0⟩, ⟨0x20000000, 0, 2, 1⟩, ⟨0x20000004, 0⟩⟩, delayCount := 500000 }

theorem validate_aborts_only_past_64_bits_hugeRamBoard :
    hugeRamBoard.validate = .error (.windowEndOverflow "ram") ∧
      hugeRam.windowSize = .ok 0xFFFFFFFFFFFFFFFF := by
  have hs : hugeRam.windowSize = .ok 0xFFFFFFFFFFFFFFFF := by decide +kernel
  have hname : ∃ c ∈ hugeRamBoard.name.toList, Text.isBlank c = false :=
    ⟨'h', by simp [hugeRamBoard], rfl⟩
  have hv := (validate_aborts_only_past_64_bits hugeRamBoard).2 [] hugeRam [] _ rfl rfl
    hname (by decide) (by simp [peripheralsChecks]) (by simp) (by decide) (by simp [hugeRam])
    hs (by decide) (by decide)
  exact ⟨by simpa [hugeRam] using hv, hs⟩

end Profile

/-! ### The bus -/

/-- The accesses counted after an operation, from `n` before it: a reset whose values all take
starts the count again, and one that refuses a value leaves it. -/
def BusOp.count (takes : Bool) (n : Nat) (op : BusOp) : Nat :=
  if op = .reset ∧ takes = true then 0 else n + op.calls

namespace Bus

variable {ω : Type}

/-- Every query of a bus answers: no search of a window overflows, a window serves an address at
or past its base, so the offset it is given does not wrap, and peeks, direct reads and writes, pin
states and snapshots all return. -/
structure Answers (b : Bus ω) : Prop where
  holds : ∀ w ∈ b.windows, ∀ a, w.holds? a = .ok (decide (w.Holds a))
  offset : ∀ a i w, locate b.windows a = .ok (some (i, w)) →
    w.base ≤ a ∧ (a - w.base).toNat = a.toNat - w.base.toNat
  peek : ∀ a, ∃ v, b.peek a = .ok v
  readWord : ∀ a, ∃ r, b.readWord a = .ok r
  writeWord : ∀ a v, ∃ r, b.writeWord a v = .ok r
  pinState : ∀ a pin, ∃ r, b.pinState a pin = .ok r
  snapshot : ∃ shot, b.snapshot = .ok shot

theorem answers_of_fits {b : Bus ω} (hfit : b.Fits) : b.Answers where
  holds w hw a := Window.holds?_of_fits (hfit w hw) a
  offset a i w hl := by
    rcases locate_fits b.windows a hfit with ⟨j, u, hl', hf⟩ | ⟨hl', -⟩
    · obtain ⟨-, rfl⟩ : (i, w) = (j, u) := by simpa [hl] using hl'
      have hle := UInt32.le_iff_toNat_le.mpr hf.2.1.1
      exact ⟨hle, UInt32.toNat_sub_of_le _ _ hle⟩
    · simp [hl] at hl'
  peek := peek_ok hfit
  readWord _ := readWord_ok hfit
  writeWord _ v := by
    rcases writeWord_cases hfit v with ⟨_, _, _, h⟩ | ⟨_, h⟩ <;> exact ⟨_, h⟩
  pinState a _ := by
    rcases locate_fits b.windows a hfit with ⟨_, _, hl, -⟩ | ⟨hl, -⟩ <;> simp [pinState, hl]
  snapshot := snapshot_ok hfit

variable [Observer ω] {b : Bus ω}

theorem performAll_fits_of_fits (hfit : b.Fits) (ops : List BusOp) : (b.performAll ops).Fits :=
  fits_of_cold (performAll_cold b ops) hfit

theorem perform_halted (hfit : b.Fits) (hh : b.halted ≠ none) (op : BusOp) :
    (b.perform op).halted ≠ none := by
  by_cases hop : op = .reset
  · subst hop
    rw [perform, (reset_cases b).2.1]
    exact hh
  · exact fun h => hh ((perform_ticks hfit hop).running.mp h).1

theorem performAll_halted (ops : List BusOp) : ∀ {b : Bus ω}, b.Fits → b.halted ≠ none →
    (b.performAll ops).halted ≠ none := by
  induction ops with
  | nil => exact fun _ hh => hh
  | cons op ops ih =>
    intro b hfit hh
    rw [performAll_cons]
    exact ih (perform_fits hfit op) (perform_halted hfit hh op)

theorem perform_count (hfit : b.Fits) (hh : b.halted = none) (op : BusOp) :
    ((b.perform op).halted = none ↔ op.count b.reset.2.isNone b.cycle.toNat < 2 ^ 64) ∧
      ((b.perform op).halted = none →
        (b.perform op).cycle.toNat = op.count b.reset.2.isNone b.cycle.toNat) := by
  by_cases hop : op = .reset
  · -- a reset never stops the bus; it zeroes the counter when every reset value takes
    subst hop
    obtain ⟨-, hhalt, hnone, hsome⟩ := reset_cases b
    simp only [perform, BusOp.count, true_and, hhalt, hh, true_iff, forall_const]
    cases hr : b.reset.2 with
    | none => simp [hnone hr]
    | some f => simp [(hsome (by simp [hr])).2, BusOp.calls, b.cycle.toNat_lt]
  · have ht := perform_ticks hfit hop
    have hcount : op.count b.reset.2.isNone b.cycle.toNat = b.cycle.toNat + op.calls := by
      simp [BusOp.count, hop]
    rw [hcount, ht.running]
    exact ⟨by simp [hh], fun h => (ht.cycle_toNat hh h.2).2⟩

/-- **The counter overflows only past `2^64` accesses since a reset.** On a running bus whose
windows fit, operations leave it running exactly when every count along them, from the counter
before, stays below `2^64`, and then the counter is the last count. -/
theorem performAll_count (ops : List BusOp) : ∀ {b : Bus ω}, b.Fits → b.halted = none →
    ((b.performAll ops).halted = none ↔
      ∀ m ∈ ops.scanl (BusOp.count b.reset.2.isNone) b.cycle.toNat, m < 2 ^ 64) ∧
    ((b.performAll ops).halted = none →
      (b.performAll ops).cycle.toNat = ops.foldl (BusOp.count b.reset.2.isNone) b.cycle.toNat) := by
  induction ops with
  | nil => intro b _ hh; simp [performAll, hh, b.cycle.toNat_lt]
  | cons op ops ih =>
    intro b hfit hh
    have hfit1 := perform_fits hfit op
    -- whether a reset takes its values is the same all along the run
    have htakes : (b.perform op).reset.2 = b.reset.2 := (reset_performAll b [op]).1
    obtain ⟨hrun, hcyc⟩ := perform_count hfit hh op
    rw [performAll_cons, List.scanl_cons, List.foldl_cons, List.forall_mem_cons]
    by_cases h1 : (b.perform op).halted = none
    · have hrest := ih hfit1 h1
      rw [htakes, hcyc h1] at hrest
      exact ⟨hrest.1.trans (and_iff_right b.cycle.toNat_lt).symm, hrest.2⟩
    · have hstop := performAll_halted ops hfit1 h1
      have hhead : op.count b.reset.2.isNone b.cycle.toNat ∈
          ops.scanl (BusOp.count b.reset.2.isNone) (op.count b.reset.2.isNone b.cycle.toNat) := by
        cases ops <;> simp [List.scanl_cons]
      refine ⟨⟨fun h => absurd h hstop, fun h => absurd (hrun.mpr (h.2 _ hhead)) h1⟩,
        fun h => absurd h hstop⟩

/-- **Nothing a bus does overflows while its windows fit.** On a running bus whose windows end
inside 64 bits, every sequence of operations leaves a bus whose queries all answer, and it stops
exactly when the accesses counted since the last reset that took reach `2^64`; until then its
counter is that count. -/
theorem performAll_never_overflows (b : Bus ω) (hfit : b.Fits) (hh : b.halted = none)
    (ops : List BusOp) :
    (b.performAll ops).Answers ∧
      ((b.performAll ops).halted = none ↔
        ∀ m ∈ ops.scanl (BusOp.count b.reset.2.isNone) b.cycle.toNat, m < 2 ^ 64) ∧
      ((b.performAll ops).halted = none →
        (b.performAll ops).cycle.toNat = ops.foldl (BusOp.count b.reset.2.isNone) b.cycle.toNat) :=
  ⟨answers_of_fits (performAll_fits_of_fits hfit ops), performAll_count ops hfit hh⟩

theorem performAll_never_overflows_gatedPort :
    gatedPort.Fits ∧ gatedPort.halted = none ∧
      (gatedPort.performAll [.read 0x40011004, .setBits 0x40021018 0x10, .reset,
        .write 0x40011004 0x44244444]).halted = none :=
  ⟨by decide, rfl, ((performAll_never_overflows gatedPort (by decide) rfl
    [.read 0x40011004, .setBits 0x40021018 0x10, .reset, .write 0x40011004 0x44244444]).2.1).mpr
      (by decide)⟩

end Bus

end Heartbeat
