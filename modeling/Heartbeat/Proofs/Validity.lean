import Heartbeat.Proofs.Profile

/-!
# Validation is a list of checks made in order

Validation makes its checks one after the other and reports the first that fails. Written out
flat, the checks are: the schema version and the name; the LED's clock bit, mode field, mode value
and pin, then its three registers' alignment; for each peripheral in declaration order a fresh id,
a known kind, the gate's bit and register, a size that reads, is not zero and ends by `2^32`; then
no two windows sharing an address; and, with peripherals declared, each LED register inside one.

Two of the checks are made on other data than they speak of. Ids are checked against those seen
so far, which over the whole list is their being distinct. Overlap is checked on neighbours in
the order of start, end and id only; since every window ends after it starts, a pair that shares
an address forces a pair of neighbours that does (`firstOverlap_eq_none_iff`).

* `Check`, `Check.run`, `Check.firstFailing` : conditions with their errors, made in order;
* `ledChecks`, `peripheralChecks`, `Profile.checklist` : the checks of validation;
* `Profile.Valid` : what a profile must satisfy, condition by condition;
* `Profile.validate_eq_run` : validation makes exactly the checks of the list;
* `Profile.checklist_holds_iff` : the checks all pass exactly when the profile is valid;
* `Profile.validate_spec` : both, as validation's specification.
-/

namespace Heartbeat

/-- A condition validation checks, and the error it reports when the condition fails. -/
structure Check where
  holds : Bool
  error : ProfileError

namespace Check

/-- The error of the first check that fails. -/
def firstFailing (cs : List Check) : Option ProfileError :=
  (cs.find? fun c => !c.holds).map error

/-- Makes the checks in order and stops at the first that fails. -/
def run (cs : List Check) : Except ProfileError Unit :=
  match firstFailing cs with
  | none => .ok ()
  | some e => .error e

@[simp] theorem run_nil : run [] = .ok () := rfl

theorem run_cons (c : Check) (cs : List Check) :
    run (c :: cs) = if c.holds then run cs else .error c.error := by
  cases h : c.holds <;> simp [run, firstFailing, h]

theorem run_append (l₁ l₂ : List Check) : run (l₁ ++ l₂) = run l₁ >>= fun _ => run l₂ := by
  induction l₁ with
  | nil => rfl
  | cons c cs ih =>
    rw [List.cons_append, run_cons, run_cons, ih]
    split <;> rfl

theorem run_eq_ok {cs : List Check} : run cs = .ok () ↔ ∀ c ∈ cs, c.holds = true := by
  induction cs with
  | nil => simp
  | cons c cs ih =>
    rw [run_cons]
    cases h : c.holds <;> simp [h, ih]

theorem run_eq_error {cs : List Check} {e : ProfileError} :
    run cs = .error e ↔ firstFailing cs = some e := by
  unfold run
  split <;> simp_all

end Check

/-! ### The LED -/

/-- The three registers of the LED: clock, mode, output. -/
def LedSpec.registers (led : LedSpec) : List UInt32 :=
  [led.clock.register, led.mode.register, led.output.register]

/-- The checks on the LED, in order: its clock bit, mode field and mode value, and pin fit a
32-bit register, and its three registers are aligned. -/
def ledChecks (led : LedSpec) : List Check :=
  [⟨decide (led.clock.bit.toNat < 32), .clockBitOutOfRange led.clock.bit⟩,
   ⟨decide (1 ≤ led.mode.width.toNat ∧ led.mode.offset.toNat + led.mode.width.toNat ≤ 32),
     .modeFieldOutOfRange led.mode.offset led.mode.width⟩,
   ⟨decide (led.mode.width.toNat = 32 ∨ led.mode.value.toNat < 2 ^ led.mode.width.toNat),
     .modeValueTooWide led.mode.value led.mode.width⟩,
   ⟨decide (led.output.pin.toNat < 32), .pinOutOfRange led.output.pin⟩] ++
  led.registers.map fun r => ⟨decide (r.toNat % 4 = 0), .unaligned r⟩

theorem ge_32_iff (b : UInt8) : b ≥ 32 ↔ ¬ b.toNat < 32 := by
  rw [ge_iff_le, UInt8.le_iff_toNat_le]
  simp

theorem modeField_bad_iff (o w : UInt8) :
    (decide (w = 0) || decide (w.toNat + o.toNat > 32)) = true ↔
      ¬ (1 ≤ w.toNat ∧ o.toNat + w.toNat ≤ 32) := by
  have : w = 0 ↔ w.toNat = 0 := by rw [← UInt8.toNat_inj]; rfl
  simp only [Bool.or_eq_true, decide_eq_true_eq, this]
  omega

/-- The code's test of a mode value too wide for its field is the failure of the value fitting:
a field of 32 bits or more takes every value. -/
theorem modeValue_bad_iff (v : UInt32) (w : UInt8) :
    (decide (w < 32) && v.toNat >>> w.toNat != 0) = true ↔
      ¬ (w.toNat = 32 ∨ v.toNat < 2 ^ w.toNat) := by
  have hv := v.toNat_lt
  have hw : w < 32 ↔ w.toNat < 32 := by rw [UInt8.lt_iff_toNat_lt]; rfl
  simp only [Bool.and_eq_true, decide_eq_true_eq, bne_iff_ne, ne_eq, Nat.shiftRight_eq_div_pow,
    Nat.div_eq_zero_iff_lt (Nat.two_pow_pos _), hw]
  constructor
  · rintro ⟨h1, h2⟩ (h | h) <;> omega
  · intro h
    have h32 : ¬ 32 ≤ w.toNat := fun h32 =>
      h (.inr (Nat.lt_of_lt_of_le hv (Nat.pow_le_pow_right (by decide) h32)))
    omega

theorem forIn_aligned (rs : List UInt32) :
    (forIn rs PUnit.unit fun r _ =>
      if (r % 4 != 0) = true then Except.error (ProfileError.unaligned r)
      else pure (ForInStep.yield PUnit.unit) : Except ProfileError PUnit) =
      Check.run (rs.map fun r => ⟨decide (r.toNat % 4 = 0), .unaligned r⟩) := by
  induction rs with
  | nil => rfl
  | cons r rs ih =>
    rw [List.forIn_cons, List.map_cons, Check.run_cons, ← ih]
    by_cases h : r.toNat % 4 = 0
    · have : r % 4 = 0 := by rw [← UInt32.toNat_inj]; simpa using h
      simp [this, h]
    · have : r % 4 ≠ 0 := by rw [ne_eq, ← UInt32.toNat_inj]; simpa using h
      simp [this, h]

theorem checkLed_eq_run (led : LedSpec) : Profile.checkLed led = Check.run (ledChecks led) := by
  simp only [Profile.checkLed, ledChecks, LedSpec.registers, List.cons_append, List.nil_append,
    Check.run_cons, throw_eq_error, error_bind, ge_32_iff, modeField_bad_iff, modeValue_bad_iff,
    ite_not, decide_eq_true_eq, forIn_aligned, bind_pure_unit]

/-! ### Each peripheral -/

namespace PeripheralSpec

/-- The window of a peripheral of a given size: its addresses `[base, base + size)`, named by its
id. -/
def span (q : PeripheralSpec) (size : UInt64) : Span :=
  ⟨q.base.toNat, q.base.toNat + size.toNat, q.id⟩

/-- The checks on a peripheral's clock gate, when it has one: its bit fits a 32-bit register,
which is aligned. -/
def gateChecks (q : PeripheralSpec) : List Check :=
  match q.gate with
  | some g => [⟨decide (g.bit.toNat < 32), .gateBitOutOfRange q.id g.bit⟩,
      ⟨decide (g.register.toNat % 4 = 0), .unaligned g.register⟩]
  | none => []

/-- The checks on a peripheral's size: it reads, is not zero, and the window ends in 64 bits and
then by `2^32`. -/
def sizeChecks (q : PeripheralSpec) : List Check :=
  match q.windowSize with
  | .error e => [⟨false, .badSize q.id e⟩]
  | .ok s => [⟨decide (0 < s.toNat), .emptyWindow q.id⟩,
      ⟨decide (q.base.toNat + s.toNat < 2 ^ 64), .windowEndOverflow q.id⟩,
      ⟨decide (q.base.toNat + s.toNat ≤ 2 ^ 32), .windowOutOfRange q.id⟩]

end PeripheralSpec

/-- The checks on a peripheral, given the ids declared before it: a fresh id, a known kind, its
gate, its size. -/
def peripheralChecks (earlier : List String) (q : PeripheralSpec) : List Check :=
  [⟨decide (q.id ∉ earlier), .duplicateId q.id⟩,
   ⟨decide (q.kind ∈ peripheralKinds), .unsupportedPeripheral q.id q.kind⟩] ++
  q.gateChecks ++ q.sizeChecks

/-- The checks on the peripherals in declaration order. -/
def peripheralsChecks : List String → List PeripheralSpec → List Check
  | _, [] => []
  | earlier, q :: qs => peripheralChecks earlier q ++ peripheralsChecks (q.id :: earlier) qs

@[simp] theorem map_error {ε α β : Type} (f : α → β) (e : ε) :
    (Except.error e : Except ε α).map f = .error e := rfl

@[simp] theorem map_ok {ε α β : Type} (f : α → β) (a : α) :
    (Except.ok a : Except ε α).map f = .ok (f a) := rfl

theorem unaligned_iff (r : UInt32) : (r % 4 != 0) = true ↔ ¬ r.toNat % 4 = 0 := by
  rw [bne_iff_ne, ne_eq, ← UInt32.toNat_inj]
  rfl

theorem checkPeripheral_map (seen : List String) (q : PeripheralSpec) :
    (Profile.checkPeripheral seen q).map (fun _ => ()) = Check.run (peripheralChecks seen q) := by
  rcases hw : q.windowSize with e | size <;> rcases hg : q.gate with _ | g <;>
  simp only [Profile.checkPeripheral, peripheralChecks, PeripheralSpec.gateChecks,
    PeripheralSpec.sizeChecks, hw, hg, List.cons_append, List.nil_append, List.append_nil,
    Check.run_cons, Check.run_nil, throw_eq_error, error_bind, ok_bind, ok_eq_pure,
    List.contains_iff_mem, Bool.not_eq_true', ← Bool.not_eq_true, ge_32_iff, unaligned_iff,
    Nat.pos_iff_ne_zero, ge_iff_le, gt_iff_lt, ← Nat.not_lt, ne_eq, ite_not, decide_eq_true_eq, Bool.false_eq_true, if_false,
    apply_ite (Except.map _), map_error, map_ok, UInt64.size_eq_two_pow, UInt32.size_eq_two_pow]

/-- The windows that checked peripherals give, in declaration order. -/
def spansOf : List PeripheralSpec → List Span :=
  List.filterMap fun q => match q.windowSize with
    | .ok s => some (q.span s)
    | .error _ => none

theorem map_unit_bind {ε α β : Type} (x : Except ε α) {f : α → Except ε β} {k : Except ε Unit}
    (hf : ∀ a, (f a).map (fun _ => ()) = k) :
    (x >>= f).map (fun _ => ()) = x.map (fun _ => ()) >>= fun _ => k := by
  cases x with
  | error e => rfl
  | ok a => exact hf a

theorem checkPeripherals_map : ∀ (seen : List String) (ps : List PeripheralSpec),
    (Profile.checkPeripherals seen ps).map (fun _ => ()) = Check.run (peripheralsChecks seen ps)
  | _, [] => rfl
  | seen, q :: ps => by
    rw [Profile.checkPeripherals, peripheralsChecks, Check.run_append, ← checkPeripheral_map]
    refine map_unit_bind _ fun s => ?_
    rw [← checkPeripherals_map (q.id :: seen) ps]
    cases Profile.checkPeripherals (q.id :: seen) ps <;> rfl

theorem checkPeripherals_ok : ∀ {seen : List String} {ps : List PeripheralSpec} {spans : List Span},
    Profile.checkPeripherals seen ps = .ok spans →
      spans = spansOf ps ∧ (∀ q ∈ ps, ∃ s, q.windowSize = .ok s) ∧ ∀ sp ∈ spans, sp.start < sp.stop
  | _, [], spans, h => by
    cases h
    simp [spansOf]
  | seen, q :: ps, spans, h => by
    obtain ⟨sp, hq, h⟩ := bind_eq_ok.mp h
    obtain ⟨rest, hrest, h⟩ := bind_eq_ok.mp h
    cases h
    obtain ⟨size, hsize, hpos, -, rfl⟩ := Profile.checkPeripheral_ok hq
    obtain ⟨ih, ihs, ihne⟩ := checkPeripherals_ok hrest
    refine ⟨?_, ?_, ?_⟩
    · simp [spansOf, hsize, PeripheralSpec.span, ih]
    · intro r hr
      rcases List.mem_cons.mp hr with rfl | hr
      · exact ⟨size, hsize⟩
      · exact ihs r hr
    · intro sp hsp
      rcases List.mem_cons.mp hsp with rfl | hsp
      · simp only
        omega
      · exact ihne sp hsp

/-! ### Overlapping windows -/

namespace Span

theorem le_trans' (a b c : Span) : le a b = true → le b c = true → le a c = true := by
  simp only [le, Bool.or_eq_true, Bool.and_eq_true, decide_eq_true_eq, beq_iff_eq]
  intro h1 h2
  have := @le_trans String _ a.id b.id c.id
  grind

theorem le_total' (a b : Span) : (le a b || le b a) = true := by
  simp only [le, Bool.or_eq_true, Bool.and_eq_true, decide_eq_true_eq, beq_iff_eq]
  have := le_total a.id b.id
  grind

theorem start_le_of_le {a b : Span} (h : le a b = true) : a.start ≤ b.start := by
  simp only [le, Bool.or_eq_true, Bool.and_eq_true, decide_eq_true_eq, beq_iff_eq] at h
  omega

end Span

/-- Sorted by start, spans that each hold an address overlap somewhere exactly when two
neighbours do: a window that ends before its right neighbour starts ends before every later one
starts. -/
theorem firstOverlap_eq_none_iff : ∀ {l : List Span}, l.Pairwise (fun a b => a.start ≤ b.start) →
    (∀ s ∈ l, s.start < s.stop) → (Profile.firstOverlap l = none ↔ l.Pairwise Span.Apart)
  | [], _, _ => by simp [Profile.firstOverlap]
  | [a], _, _ => by simp [Profile.firstOverlap]
  | a :: b :: rest, hs, hne => by
    have hab : a.start ≤ b.start := List.rel_of_pairwise_cons hs List.mem_cons_self
    have hb : b.start < b.stop := hne b (by simp)
    by_cases hlt : b.start < a.stop
    · -- neighbours that overlap are not apart
      simp only [Profile.firstOverlap, if_pos hlt, reduceCtorEq, false_iff]
      intro hp
      have := List.rel_of_pairwise_cons hp List.mem_cons_self
      unfold Span.Apart at this
      omega
    · have ih := firstOverlap_eq_none_iff hs.of_cons (fun s hs' => hne s (List.mem_cons_of_mem a hs'))
      simp only [Profile.firstOverlap, if_neg hlt, ih, List.pairwise_cons (l := b :: rest),
        iff_and_self]
      intro _ c hc
      have hbc : b.start ≤ c.start := by
        rcases List.mem_cons.mp hc with rfl | hc
        · exact Nat.le_refl _
        · exact List.rel_of_pairwise_cons hs.of_cons hc
      exact .inl (by omega)

theorem firstOverlap_sorted_eq_none_iff {l : List Span} (hne : ∀ s ∈ l, s.start < s.stop) :
    Profile.firstOverlap (l.mergeSort Span.le) = none ↔ l.Pairwise Span.Apart := by
  have hperm := List.mergeSort_perm l Span.le
  have hsorted := (List.pairwise_mergeSort Span.le_trans' Span.le_total' l).imp
    Span.start_le_of_le
  rw [firstOverlap_eq_none_iff hsorted fun s hs => hne s (hperm.mem_iff.mp hs),
    hperm.pairwise_iff Span.Apart.symm]

instance : DecidableRel Span.Apart := fun a b =>
  inferInstanceAs (Decidable (a.stop ≤ b.start ∨ b.stop ≤ a.start))

/-! ### The LED registers inside windows -/

/-- Whether a peripheral's window, its size read, holds an address. -/
def PeripheralSpec.covers (q : PeripheralSpec) (a : Nat) : Bool :=
  match q.windowSize with
  | .ok s => decide (q.base.toNat ≤ a ∧ a < q.base.toNat + s.toNat)
  | .error _ => false

theorem peripheralAt_go_eq {a : UInt32} : ∀ {ps : List PeripheralSpec},
    (∀ q ∈ ps, ∃ s, q.windowSize = .ok s) →
      Profile.peripheralAt.go a ps = .ok (ps.find? (·.covers a.toNat))
  | [], _ => rfl
  | q :: ps, h => by
    obtain ⟨s, hs⟩ := h q List.mem_cons_self
    have ih := peripheralAt_go_eq (a := a) (fun r hr => h r (List.mem_cons_of_mem q hr))
    have hc : q.contains a s = q.covers a.toNat := by
      simp [PeripheralSpec.contains, PeripheralSpec.covers, hs]
    rw [Profile.peripheralAt.go, hs, ok_bind, List.find?_cons, hc]
    cases q.covers a.toNat <;> simp [ih]

/-- The checks that each LED register lies in a declared window, made when peripherals are
declared. -/
def mappedChecks (p : Profile) : List Check :=
  if p.peripherals = [] then [] else
  p.led.registers.map fun r => ⟨p.peripherals.any (·.covers r.toNat), .unmapped r⟩

theorem any_covers_of_find? {ps : List PeripheralSpec} {a : Nat} :
    ps.any (·.covers a) = (ps.find? (·.covers a)).isSome := by
  cases hf : ps.find? (·.covers a) with
  | none => simpa using List.find?_eq_none.mp hf
  | some q =>
    have hq := List.find?_some hf
    exact List.any_eq_true.mpr ⟨q, List.mem_of_find?_eq_some hf, hq⟩

theorem checkMapped_eq_run {p : Profile} (hs : ∀ q ∈ p.peripherals, ∃ s, q.windowSize = .ok s) :
    p.checkMapped = Check.run (p.led.registers.map fun r =>
      ⟨p.peripherals.any (·.covers r.toNat), .unmapped r⟩) := by
  have key : ∀ r, p.peripheralAt r = .ok (p.peripherals.find? (·.covers r.toNat)) :=
    fun r => peripheralAt_go_eq hs
  simp only [Profile.checkMapped, throw_eq_error, error_bind, List.forIn_cons, List.forIn_nil, key,
    LedSpec.registers, List.map_cons, List.map_nil, Check.run_cons, Check.run_nil,
    any_covers_of_find?]
  cases p.peripherals.find? (·.covers p.led.clock.register.toNat) <;>
  cases p.peripherals.find? (·.covers p.led.mode.register.toNat) <;>
  cases p.peripherals.find? (·.covers p.led.output.register.toNat) <;> rfl

/-! ### The whole list -/

namespace Profile

/-- The neighbours validation names as overlapping: the first, in the order of start, end and id,
of two windows where the later starts before the earlier ends. -/
def overlapPair (p : Profile) : String × String :=
  (firstOverlap ((spansOf p.peripherals).mergeSort Span.le)).getD ("", "")

/-- The checks of validation, in the order it makes them. -/
def checklist (p : Profile) : List Check :=
  [⟨decide (p.schemaVersion = supportedSchema), .unsupportedSchema p.schemaVersion⟩,
   ⟨decide (∃ c ∈ p.name.toList, Text.isBlank c = false), .emptyName⟩] ++
  ledChecks p.led ++ peripheralsChecks [] p.peripherals ++
  [⟨decide ((spansOf p.peripherals).Pairwise Span.Apart),
    .overlap p.overlapPair.1 p.overlapPair.2⟩] ++
  mappedChecks p

theorem Text.trimBlank_eq_nil_iff {cs : List Char} :
    Text.trimBlank cs = [] ↔ ∀ c ∈ cs, Text.isBlank c = true := by
  unfold Text.trimBlank
  rw [List.reverse_eq_nil_iff, List.dropWhile_eq_nil_iff]
  simp only [List.mem_reverse]
  constructor
  · intro h c hc
    rw [← List.takeWhile_append_dropWhile (p := Text.isBlank) (l := cs)] at hc
    rcases List.mem_append.1 hc with h1 | h1
    · exact List.mem_takeWhile_imp h1
    · exact h c h1
  · intro h c hc
    exact h c ((List.dropWhile_sublist _).subset hc)

theorem trim_isEmpty_iff (s : String) :
    (Text.trim s).isEmpty = true ↔ ¬ ∃ c ∈ s.toList, Text.isBlank c = false := by
  simp [Text.trim, String.isEmpty_iff, Text.trimBlank_eq_nil_iff]

/-- **Validation makes exactly the checks of the list**, in its order, and reports the error of
the first that fails. -/
theorem validate_eq_run (p : Profile) : p.validate = Check.run p.checklist := by
  simp only [validate, checklist, List.cons_append, List.nil_append, List.append_assoc,
    Check.run_cons, Check.run_append, throw_eq_error, error_bind, bne_iff_ne, ne_eq,
    trim_isEmpty_iff, ite_not, decide_eq_true_eq, checkLed_eq_run]
  by_cases hsch : p.schemaVersion = supportedSchema
  swap; · rw [if_neg hsch, if_neg hsch]
  by_cases hnm : ∃ c ∈ p.name.toList, Text.isBlank c = false
  swap; · rw [if_pos hsch, if_pos hsch, if_neg hnm, if_neg hnm]
  rw [if_pos hsch, if_pos hsch, if_pos hnm, if_pos hnm]
  congr 1
  funext _
  rw [← checkPeripherals_map]
  cases hc : checkPeripherals [] p.peripherals with
  | error e => rfl
  | ok spans =>
    obtain ⟨rfl, hsizes, hne⟩ := checkPeripherals_ok hc
    simp only [map_ok, ok_bind]
    cases hov : firstOverlap ((spansOf p.peripherals).mergeSort Span.le) with
    | some ab =>
      have hap : ¬ (spansOf p.peripherals).Pairwise Span.Apart := by
        rw [← firstOverlap_sorted_eq_none_iff hne, hov]
        simp
      obtain ⟨a, b⟩ := ab
      simp [hap, overlapPair, hov]
    | none =>
      have hap : (spansOf p.peripherals).Pairwise Span.Apart :=
        (firstOverlap_sorted_eq_none_iff hne).mp hov
      simp only [hap, if_true, mappedChecks]
      by_cases hp : p.peripherals = []
      · simp [hp]
      · simp [hp, checkMapped_eq_run hsizes]

/-- What validation asks of a profile, condition by condition. -/
structure Valid (p : Profile) : Prop where
  schema : p.schemaVersion = supportedSchema
  named : ∃ c ∈ p.name.toList, Text.isBlank c = false
  clockBit : p.led.clock.bit.toNat < 32
  modeField : 1 ≤ p.led.mode.width.toNat ∧ p.led.mode.offset.toNat + p.led.mode.width.toNat ≤ 32
  modeValue : p.led.mode.width.toNat = 32 ∨ p.led.mode.value.toNat < 2 ^ p.led.mode.width.toNat
  pin : p.led.output.pin.toNat < 32
  aligned : ∀ r ∈ p.led.registers, r.toNat % 4 = 0
  distinct : (p.peripherals.map (·.id)).Nodup
  kinds : ∀ q ∈ p.peripherals, q.kind ∈ peripheralKinds
  gates : ∀ q ∈ p.peripherals, ∀ g ∈ q.gate, g.bit.toNat < 32 ∧ g.register.toNat % 4 = 0
  sizes : ∀ q ∈ p.peripherals, ∃ s, q.windowSize = .ok s ∧ 0 < s.toNat ∧
    q.base.toNat + s.toNat ≤ 2 ^ 32
  disjoint : p.peripherals.Pairwise fun q r => ∀ a, ¬ (q.covers a = true ∧ r.covers a = true)
  mapped : p.peripherals ≠ [] → ∀ r ∈ p.led.registers, ∃ q ∈ p.peripherals, q.covers r.toNat = true

end Profile

/-- What the checks on one peripheral ask, past its id being fresh: a known kind, a gate bit and
register that fit, a size that reads, is not zero and ends the window by `2^32`. -/
def PeripheralSpec.Sound (q : PeripheralSpec) : Prop :=
  q.kind ∈ peripheralKinds ∧ (∀ g ∈ q.gate, g.bit.toNat < 32 ∧ g.register.toNat % 4 = 0) ∧
    ∃ s, q.windowSize = .ok s ∧ 0 < s.toNat ∧ q.base.toNat + s.toNat ≤ 2 ^ 32

theorem ledChecks_hold (led : LedSpec) :
    (∀ c ∈ ledChecks led, c.holds = true) ↔
      led.clock.bit.toNat < 32 ∧
      (1 ≤ led.mode.width.toNat ∧ led.mode.offset.toNat + led.mode.width.toNat ≤ 32) ∧
      (led.mode.width.toNat = 32 ∨ led.mode.value.toNat < 2 ^ led.mode.width.toNat) ∧
      led.output.pin.toNat < 32 ∧ ∀ r ∈ led.registers, r.toNat % 4 = 0 := by
  simp [ledChecks, LedSpec.registers, and_assoc]

theorem peripheralChecks_hold (earlier : List String) (q : PeripheralSpec) :
    (∀ c ∈ peripheralChecks earlier q, c.holds = true) ↔ q.id ∉ earlier ∧ q.Sound := by
  -- past the size reading, ending in 64 bits follows from ending by `2^32`
  rcases hw : q.windowSize with e | size <;> rcases hg : q.gate with _ | g <;>
    simp [peripheralChecks, PeripheralSpec.gateChecks, PeripheralSpec.sizeChecks,
      PeripheralSpec.Sound, hw, hg] <;>
    omega

theorem peripheralsChecks_hold : ∀ (seen : List String) (ps : List PeripheralSpec),
    (∀ c ∈ peripheralsChecks seen ps, c.holds = true) ↔
      (∀ q ∈ ps, q.id ∉ seen) ∧ (ps.map (·.id)).Nodup ∧ ∀ q ∈ ps, q.Sound
  | _, [] => by simp [peripheralsChecks]
  | seen, q :: ps => by
    rw [peripheralsChecks, List.forall_mem_append, peripheralChecks_hold,
      peripheralsChecks_hold (q.id :: seen) ps]
    simp only [List.forall_mem_cons, List.map_cons, List.nodup_cons]
    simp only [List.mem_cons, not_or, List.mem_map, not_exists, not_and]
    constructor
    · rintro ⟨⟨hq, hsq⟩, hps, hnd, hsound⟩
      exact ⟨⟨hq, fun r hr => (hps r hr).2⟩, ⟨fun r hr he => (hps r hr).1 he, hnd⟩, hsq, hsound⟩
    · rintro ⟨⟨hq, hps⟩, ⟨hfresh, hnd⟩, hsq, hsound⟩
      exact ⟨⟨hq, hsq⟩, fun r hr => ⟨hfresh r hr, hps r hr⟩, hnd, hsound⟩

theorem apart_iff {a b : Span} (ha : a.start < a.stop) (hb : b.start < b.stop) :
    a.Apart b ↔ ∀ x, ¬ ((a.start ≤ x ∧ x < a.stop) ∧ (b.start ≤ x ∧ x < b.stop)) := by
  unfold Span.Apart
  constructor
  · rintro h x ⟨⟨h1, h2⟩, h3, h4⟩
    omega
  · intro h
    by_contra hn
    exact h (max a.start b.start) ⟨⟨by omega, by omega⟩, by omega, by omega⟩

theorem covers_span {q : PeripheralSpec} {s : UInt64} (hs : q.windowSize = .ok s) (x : Nat) :
    q.covers x = true ↔ (q.span s).start ≤ x ∧ x < (q.span s).stop := by
  simp [PeripheralSpec.covers, PeripheralSpec.span, hs]

theorem spansOf_apart_iff {ps : List PeripheralSpec}
    (hs : ∀ q ∈ ps, ∃ s, q.windowSize = .ok s ∧ 0 < s.toNat) :
    (spansOf ps).Pairwise Span.Apart ↔
      ps.Pairwise fun q r => ∀ a, ¬ (q.covers a = true ∧ r.covers a = true) := by
  rw [spansOf, List.pairwise_filterMap]
  apply List.Pairwise.iff_of_mem
  intro q r hq hr
  obtain ⟨s, hsq, hs0⟩ := hs q hq
  obtain ⟨t, htr, ht0⟩ := hs r hr
  simp only [hsq, htr, Option.some.injEq, forall_eq']
  rw [apart_iff (by simp [PeripheralSpec.span]; omega) (by simp [PeripheralSpec.span]; omega)]
  simp only [covers_span hsq, covers_span htr]

theorem mappedChecks_hold (p : Profile) :
    (∀ c ∈ mappedChecks p, c.holds = true) ↔
      (p.peripherals ≠ [] → ∀ r ∈ p.led.registers, ∃ q ∈ p.peripherals, q.covers r.toNat = true) := by
  by_cases hp : p.peripherals = []
  · simp [mappedChecks, hp]
  · simp [mappedChecks, hp]

namespace Profile

/-- **The checks all pass exactly when the profile is valid.** -/
theorem checklist_holds_iff (p : Profile) :
    (∀ c ∈ p.checklist, c.holds = true) ↔ p.Valid := by
  simp only [checklist, List.forall_mem_append, List.forall_mem_cons, List.not_mem_nil,
    IsEmpty.forall_iff, implies_true, and_true, decide_eq_true_eq, ledChecks_hold,
    peripheralsChecks_hold, List.not_mem_nil, not_false_eq_true, mappedChecks_hold]
  constructor
  · rintro ⟨⟨⟨⟨⟨hs, hn⟩, hb, hf, hv, hpin, hal⟩, -, hnd, hsound⟩, hap⟩, hmap⟩
    have hsizes : ∀ q ∈ p.peripherals, ∃ s, q.windowSize = .ok s ∧ 0 < s.toNat :=
      fun q hq => (hsound q hq).2.2.imp fun _ h => ⟨h.1, h.2.1⟩
    exact ⟨hs, hn, hb, hf, hv, hpin, hal, hnd, fun q hq => (hsound q hq).1,
      fun q hq => (hsound q hq).2.1, fun q hq => (hsound q hq).2.2,
      (spansOf_apart_iff hsizes).mp hap, hmap⟩
  · intro h
    have hsizes : ∀ q ∈ p.peripherals, ∃ s, q.windowSize = .ok s ∧ 0 < s.toNat :=
      fun q hq => (h.sizes q hq).imp fun _ h => ⟨h.1, h.2.1⟩
    exact ⟨⟨⟨⟨⟨h.schema, h.named⟩, h.clockBit, h.modeField, h.modeValue, h.pin, h.aligned⟩,
      by simp, h.distinct, fun q hq => ⟨h.kinds q hq, h.gates q hq, h.sizes q hq⟩⟩,
      (spansOf_apart_iff hsizes).mpr h.disjoint⟩, h.mapped⟩

theorem validate_ok_iff (p : Profile) : p.validate = .ok () ↔ p.Valid := by
  rw [validate_eq_run, Check.run_eq_ok, checklist_holds_iff]

/-- **Validation accepts exactly the valid profiles**, and a profile it refuses is refused with
the error of the first check in `checklist` that fails: the schema, the name, the LED fields and
registers, each peripheral in declaration order, the overlap test, the LED registers mapped. -/
theorem validate_spec (p : Profile) :
    (p.validate = .ok () ↔ p.Valid) ∧
      ∀ e, p.validate = .error e ↔ Check.firstFailing p.checklist = some e :=
  ⟨validate_ok_iff p, fun _ => by rw [validate_eq_run, Check.run_eq_error]⟩

end Profile

end Heartbeat
