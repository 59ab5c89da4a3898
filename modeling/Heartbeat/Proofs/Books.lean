import Heartbeat.Proofs.Events

/-!
# The books a trace and metrics keep

A trace that keeps every kind of access and a metrics observer, attached to a bus before its
first operation, keep books of what the bus tells them. An observer ends as its callbacks folded
over the events of the run (`Bus.performAll_watch`), so each book is a count over those events.

The trace holds the accesses in the order they were made (`Trace.hear_all`). The metrics count the
reads, the writes and the faults told (`Metrics.hear_counts`), and, per window name, the accesses
whose address that window owns (`Metrics.hear_table`): their table is kept in name order, where
counting one more access for a name changes that name's counts only (`Metrics.sorted_bump`,
`Metrics.countsAt_bump`). The faults told are those still in the log and those that clearing or a
reset took out of it (`Bus.faults_eventsAlong`).

* `Counts.add`, `Metrics.countsAt`, `Metrics.Sorted`;
* `Bus.watched` : a bus with a trace and metrics attached, before any operation;
* `Bus.trace_metrics_agree` : the books after any run with room for its accesses.
-/

namespace Heartbeat

def Counts.add (k : AccessKind) (c : Counts) : Counts :=
  if k = .read then { c with reads := c.reads + 1 } else { c with writes := c.writes + 1 }

theorem add_ofNat_succ (x : UInt64) (r : Nat) : x + 1 + UInt64.ofNat r = x + UInt64.ofNat (r + 1) := by
  rw [UInt64.ofNat_add, UInt64.add_assoc, UInt64.add_comm 1]
  rfl

namespace Metrics

def countsAt (t : List (String × Counts)) (n : String) : Counts := (t.lookup n).getD ⟨0, 0⟩

def Sorted (t : List (String × Counts)) : Prop := t.Pairwise fun a b => a.1 < b.1

theorem bump_nil (k : AccessKind) (n : String) : bump k n [] = [(n, Counts.add k ⟨0, 0⟩)] := by
  cases k <;> rfl

theorem bump_cons (k : AccessKind) (n n' : String) (c : Counts) (rest : List (String × Counts)) :
    bump k n ((n', c) :: rest) =
      if n < n' then (n, Counts.add k ⟨0, 0⟩) :: (n', c) :: rest
      else if n = n' then (n', Counts.add k c) :: rest
      else (n', c) :: bump k n rest := by
  cases k <;> rfl

theorem countsAt_nil (m : String) : countsAt [] m = ⟨0, 0⟩ := rfl

theorem countsAt_cons (n : String) (c : Counts) (rest : List (String × Counts)) (m : String) :
    countsAt ((n, c) :: rest) m = if m = n then c else countsAt rest m := by
  by_cases h : m = n
  · simp [countsAt, List.lookup, h]
  · simp [countsAt, List.lookup, h, beq_false_of_ne h]

theorem countsAt_of_lt {n : String} {c : Counts} {rest : List (String × Counts)} {m : String}
    (hs : Sorted ((n, c) :: rest)) (hm : m < n) : countsAt ((n, c) :: rest) m = ⟨0, 0⟩ := by
  have hnone : ((n, c) :: rest).lookup m = none := by
    rw [List.lookup_eq_none_iff]
    intro p hp
    have hlt : m < p.1 := by
      rcases List.mem_cons.mp hp with rfl | hp
      · exact hm
      · exact lt_trans hm (List.rel_of_pairwise_cons hs hp)
    simpa using ne_of_lt hlt
  simp [countsAt, hnone]

theorem mem_keys_bump {k : AccessKind} {n m : String} : ∀ {t : List (String × Counts)},
    m ∈ (bump k n t).map Prod.fst ↔ m = n ∨ m ∈ t.map Prod.fst
  | [] => by simp [bump_nil]
  | (n', c) :: rest => by
    rw [bump_cons]
    by_cases hlt : n < n'
    · simp [hlt]
    · by_cases heq : n = n'
      · subst heq
        simp
      · simp only [if_neg hlt, if_neg heq, List.map_cons, List.mem_cons, mem_keys_bump]
        tauto

theorem sorted_bump (k : AccessKind) (n : String) : ∀ {t : List (String × Counts)},
    Sorted t → Sorted (bump k n t)
  | [], _ => by simp [Sorted, bump_nil]
  | (n', c) :: rest, hs => by
    unfold Sorted at hs ⊢
    rw [List.pairwise_cons] at hs
    rw [bump_cons]
    by_cases hlt : n < n'
    · rw [if_pos hlt, List.pairwise_cons]
      refine ⟨?_, List.pairwise_cons.mpr hs⟩
      intro e he
      rcases List.mem_cons.mp he with rfl | he
      · exact hlt
      · exact lt_trans hlt (hs.1 e he)
    · by_cases heq : n = n'
      · rw [if_neg hlt, if_pos heq, List.pairwise_cons]
        exact hs
      · -- the name goes after `n'`, among names all above `n'`
        have hgt : n' < n := lt_of_le_of_ne (not_lt.mp hlt) (Ne.symm heq)
        rw [if_neg hlt, if_neg heq, List.pairwise_cons]
        refine ⟨?_, sorted_bump k n hs.2⟩
        intro e he
        rcases mem_keys_bump.mp (List.mem_map_of_mem (f := Prod.fst) he) with h | h
        · rw [h]
          exact hgt
        · obtain ⟨e', he', hkey⟩ := List.mem_map.mp h
          rw [← hkey]
          exact hs.1 e' he'

/-- **Counting an access for a name changes that name's counts only**, in a sorted table. -/
theorem countsAt_bump (k : AccessKind) (n m : String) : ∀ {t : List (String × Counts)},
    Sorted t → countsAt (bump k n t) m = if m = n then (countsAt t n).add k else countsAt t m
  | [], _ => by
    rw [bump_nil, countsAt_cons]
    rfl
  | (n', c) :: rest, hs => by
    rw [bump_cons]
    by_cases hlt : n < n'
    · rw [if_pos hlt, countsAt_cons, countsAt_of_lt hs hlt]
    · by_cases heq : n = n'
      · subst heq
        rw [if_neg hlt, if_pos rfl, countsAt_cons, countsAt_cons, countsAt_cons, if_pos rfl]
        by_cases hm : m = n <;> simp [hm]
      · have ih := countsAt_bump k n m (t := rest) (List.Pairwise.of_cons hs)
        rw [if_neg hlt, if_neg heq, countsAt_cons, ih, countsAt_cons, countsAt_cons, if_neg heq]
        by_cases hm : m = n'
        · rw [if_pos hm, if_neg (fun h : m = n => heq (h.symm.trans hm)), if_pos hm]
        · rw [if_neg hm, if_neg hm]

/-! ### The metrics as a fold -/

theorem hear_counts (m : Metrics) (es : List Event) :
    (hear m es).reads = m.reads + UInt64.ofNat ((Event.accesses es).countP (·.kind = .read)) ∧
    (hear m es).writes = m.writes + UInt64.ofNat ((Event.accesses es).countP (·.kind = .write)) ∧
    (hear m es).faults = m.faults + UInt64.ofNat (Event.faults es).length := by
  induction es generalizing m with
  | nil => simp [Event.accesses, Event.faults]
  | cons e es ih =>
    obtain ⟨hr, hw, hf⟩ := ih (Event.tell m e)
    rw [hear_cons, hr, hw, hf]
    cases e with
    | access n acc =>
      cases hk : acc.kind <;> cases n <;>
        simp [Event.tell, Observer.onAccess, hk, Event.accesses, Event.access?, Event.faults,
          Event.fault?, List.filterMap_cons, add_ofNat_succ]
    | fault f =>
      simp [Event.tell, Observer.onFault, Event.accesses, Event.access?, Event.faults,
        Event.fault?, List.filterMap_cons, add_ofNat_succ]
    | delay i c =>
      simp [Event.tell, Observer.onDelay, Event.accesses, Event.access?, Event.faults,
        Event.fault?, List.filterMap_cons]

theorem onAccess_byPeripheral (m : Metrics) (n : Option String) (acc : Access) :
    (Observer.onAccess m n acc).byPeripheral =
      match n with
      | some n => bump acc.kind n m.byPeripheral
      | none => m.byPeripheral := by
  cases n <;> by_cases hk : acc.kind = .read <;> simp [Observer.onAccess, hk]

section Table

variable {ws : List Window}

theorem sorted_tell {m : Metrics} (hs : Sorted m.byPeripheral) (e : Event) :
    Sorted (Event.tell m e).byPeripheral := by
  cases e with
  | access n acc =>
    rw [Event.tell, onAccess_byPeripheral]
    cases n with
    | none => exact hs
    | some n => exact sorted_bump _ _ hs
  | fault f => exact hs
  | delay i c => exact hs

/-- **One event, counted per name.** An access told with its owner's name counts for that name
only, and enters it in the table. -/
theorem tell_table {m : Metrics} (hs : Sorted m.byPeripheral) {e : Event}
    (hn : Event.Named ws [e]) (n : String) :
    (countsAt (Event.tell m e).byPeripheral n).reads = (countsAt m.byPeripheral n).reads +
        UInt64.ofNat ((Event.accesses [e]).countP fun a => a.kind = .read ∧ ownerOf ws a.address = some n) ∧
      (countsAt (Event.tell m e).byPeripheral n).writes = (countsAt m.byPeripheral n).writes +
        UInt64.ofNat ((Event.accesses [e]).countP fun a => a.kind = .write ∧ ownerOf ws a.address = some n) ∧
      (n ∈ (Event.tell m e).byPeripheral.map Prod.fst ↔
        n ∈ m.byPeripheral.map Prod.fst ∨ ∃ a ∈ Event.accesses [e], ownerOf ws a.address = some n) := by
  cases e with
  | access nm acc =>
    have hown : ownerOf ws acc.address = nm := (hn nm acc List.mem_cons_self).symm
    rw [Event.tell, onAccess_byPeripheral]
    cases nm with
    | none => simp [hown, Event.accesses, Event.access?]
    | some n' =>
      rw [countsAt_bump _ _ _ hs]
      by_cases hnn : n = n'
      · subst hnn
        cases hk : acc.kind <;>
          simp [Counts.add, hk, hown, Event.accesses, Event.access?, mem_keys_bump]
      · have hnn' : ¬ n' = n := fun h => hnn h.symm
        simp [hnn, hnn', hown, Event.accesses, Event.access?, mem_keys_bump]
  | fault f =>
    simp [Event.tell, Observer.onFault, Event.accesses, Event.access?, List.filterMap_cons]
  | delay i c =>
    simp [Event.tell, Observer.onDelay, Event.accesses, Event.access?, List.filterMap_cons]

/-- **Every event, counted per name.** Over events that name each access after its owner, the
table stays sorted, counts for each name the reads and the writes of the addresses that name's
window owns, and holds exactly the names of the windows accessed. -/
theorem hear_table : ∀ {m : Metrics} {es : List Event}, Sorted m.byPeripheral →
    Event.Named ws es →
    Sorted (hear m es).byPeripheral ∧ ∀ n,
      (countsAt (hear m es).byPeripheral n).reads = (countsAt m.byPeripheral n).reads +
        UInt64.ofNat ((Event.accesses es).countP fun a => a.kind = .read ∧ ownerOf ws a.address = some n) ∧
      (countsAt (hear m es).byPeripheral n).writes = (countsAt m.byPeripheral n).writes +
        UInt64.ofNat ((Event.accesses es).countP fun a => a.kind = .write ∧ ownerOf ws a.address = some n) ∧
      (n ∈ (hear m es).byPeripheral.map Prod.fst ↔
        n ∈ m.byPeripheral.map Prod.fst ∨ ∃ a ∈ Event.accesses es, ownerOf ws a.address = some n)
  | _, [], hs, _ => ⟨hs, fun n => by simp [Event.accesses]⟩
  | m, e :: es, hs, hn => by
    have hsplit : e :: es = [e] ++ es := rfl
    have hn' : Event.Named ws es := fun n' acc h => hn n' acc (List.mem_cons_of_mem e h)
    obtain ⟨hsorted, ih⟩ := hear_table (sorted_tell hs e) hn'
    refine ⟨hsorted, fun n => ?_⟩
    obtain ⟨hr, hw, hk⟩ := tell_table hs (fun n' acc h => hn n' acc (hsplit ▸ List.mem_append_left es h)) n
    obtain ⟨hr', hw', hk'⟩ := ih n
    rw [hear_cons, hsplit, Event.accesses_append]
    refine ⟨?_, ?_, ?_⟩
    · rw [hr', hr, List.countP_append, UInt64.ofNat_add, UInt64.add_assoc]
    · rw [hw', hw, List.countP_append, UInt64.ofNat_add, UInt64.add_assoc]
    · rw [hk', hk]
      simp only [List.mem_append, or_and_right, exists_or, or_assoc]

end Table

end Metrics

/-! ### The books of a run -/

theorem hear_pair {α β : Type} [Observer α] [Observer β] (w : α × β) (es : List Event) :
    hear w es = (hear w.1 es, hear w.2 es) := by
  induction es generalizing w with
  | nil => rfl
  | cons e es ih =>
    rw [hear_cons, ih, hear_cons, hear_cons]
    cases e <;> rfl

theorem Trace.hear_all (t : Trace) (ht : t.filter = ⟨true, true⟩) (es : List Event) :
    hear t es = { t with seen := (Event.accesses es).reverse ++ t.seen } := by
  induction es generalizing t with
  | nil => simp [Event.accesses]
  | cons e es ih =>
    cases e with
    | access n acc =>
      have hadmit : t.filter.admits acc.kind = true := by
        rw [ht]
        cases acc.kind <;> rfl
      have htell : Event.tell t (.access n acc) = { t with seen := acc :: t.seen } := by
        simp [Event.tell, Observer.onAccess, hadmit]
      rw [hear_cons, htell, ih { t with seen := acc :: t.seen } ht]
      simp [Event.accesses, Event.access?]
    | fault f =>
      rw [hear_cons, show Event.tell t (.fault f) = t from rfl, ih t ht]
      simp [Event.accesses, Event.access?, List.filterMap_cons]
    | delay i c =>
      rw [hear_cons, show Event.tell t (.delay i c) = t from rfl, ih t ht]
      simp [Event.accesses, Event.access?, List.filterMap_cons]

namespace Bus

/-- A bus on windows, gating as given, with a trace keeping both kinds and metrics attached, before
any operation. -/
def watched (board : String) (ws : List Window) (gating : Bool) : Bus (Trace × Metrics) :=
  { Bus.empty board (Trace.empty ⟨true, true⟩, Metrics.empty) with windows := ws, gating := gating }

/-- The books a trace and metrics keep over operations from `b`: the trace holds the accesses
made, in order; between resets their stamps are the cycles after the counter, one each; the metrics
count the trace's reads and writes, in all and per name of the window owning the address, and
name only windows accessed; and they count every fault logged, those still in the log and those
emptied out of it. -/
structure Books (b : Bus (Trace × Metrics)) (ops : List BusOp) : Prop where
  trace : (b.performAll ops).watch.1.accesses = b.accessesAlong ops
  stamps : ∀ pre mid post, ops = pre ++ mid ++ post → (∀ op ∈ mid, op ≠ .reset) →
    ((b.performAll pre).accessesAlong mid).map (·.cycle.toNat) =
      List.range' ((b.performAll pre).cycle.toNat + 1) (mid.map BusOp.calls).sum
  reads : (b.performAll ops).watch.2.reads.toNat =
    (b.performAll ops).watch.1.accesses.countP (·.kind = .read)
  writes : (b.performAll ops).watch.2.writes.toNat =
    (b.performAll ops).watch.1.accesses.countP (·.kind = .write)
  perName : ∀ n,
    (Metrics.countsAt (b.performAll ops).watch.2.byPeripheral n).reads.toNat =
      (b.performAll ops).watch.1.accesses.countP
        (fun a => a.kind = .read ∧ ownerOf b.windows a.address = some n) ∧
    (Metrics.countsAt (b.performAll ops).watch.2.byPeripheral n).writes.toNat =
      (b.performAll ops).watch.1.accesses.countP
        (fun a => a.kind = .write ∧ ownerOf b.windows a.address = some n)
  names : ∀ n, n ∈ (b.performAll ops).watch.2.byPeripheral.map Prod.fst ↔
    ∃ a ∈ (b.performAll ops).watch.1.accesses, ownerOf b.windows a.address = some n
  faults : (b.performAll ops).watch.2.faults.toNat =
    (b.performAll ops).faultLog.length + b.removedAlong ops

/-- **A trace and metrics attached before the first operation keep true books.** On windows that
fit, with gating on or off, after any run of fewer than `2^64` accesses: the trace holds one access
for each read or write, two for each read-modify-write, with the value answered or written and the
cycle just after its tick; the metrics count what the trace holds, and every fault ever logged. -/
theorem trace_metrics_agree (board : String) (ws : List Window) (gating : Bool)
    (ops : List BusOp) (hfit : ∀ w ∈ ws, w.Fits) (hcalls : (ops.map BusOp.calls).sum < 2 ^ 64) :
    (watched board ws gating).Books ops := by
  set b0 := watched board ws gating
  set es := b0.eventsAlong ops
  have hroom : b0.Room (ops.map BusOp.calls).sum := ⟨rfl, hfit, by simpa [b0, watched, empty]⟩
  have hwatch : (b0.performAll ops).watch =
      (hear (Trace.empty ⟨true, true⟩) es, hear Metrics.empty es) := by
    rw [performAll_watch hroom, hear_pair]
    rfl
  have haccs : (b0.performAll ops).watch.1.accesses = Event.accesses es := by
    rw [hwatch, Trace.hear_all _ rfl]
    simp [Trace.accesses, Trace.empty]
  -- every count is of at most the run's accesses, so below `2^64`
  have hsmall : ∀ x : UInt64, x = 0 → ∀ k ≤ (ops.map BusOp.calls).sum,
      (x + UInt64.ofNat k).toNat = k := by
    intro x hx k hk
    rw [hx, UInt64.zero_add, UInt64.toNat_ofNat', Nat.mod_eq_of_lt (by omega)]
  have hlen : (Event.accesses es).length = (ops.map BusOp.calls).sum := by
    rw [accesses_eventsAlong, length_accessesAlong]
  have hcount : ∀ p : Access → Bool, ((Event.accesses es).countP p) ≤ (ops.map BusOp.calls).sum :=
    fun p => hlen ▸ List.countP_le_length
  obtain ⟨hr, hw, hf⟩ := Metrics.hear_counts Metrics.empty es
  obtain ⟨-, htable⟩ := Metrics.hear_table (m := Metrics.empty) List.Pairwise.nil
    (named_eventsAlong b0 ops)
  refine ⟨haccs.trans (accesses_eventsAlong b0 ops), fun pre mid post hops hmid => ?_, ?_, ?_,
    fun n => ?_, fun n => ?_, ?_⟩
  · -- the operations before `mid` leave room for its accesses
    have h : b0.Room ((pre.map BusOp.calls).sum + (mid.map BusOp.calls).sum) := by
      refine hroom.mono ?_
      rw [hops, List.map_append, List.map_append, List.sum_append, List.sum_append]
      omega
    exact stamps_accessesAlong (performAll_room h) hmid
  · rw [haccs, hwatch, hr]
    exact hsmall _ rfl _ (hcount _)
  · rw [haccs, hwatch, hw]
    exact hsmall _ rfl _ (hcount _)
  · obtain ⟨hnr, hnw, -⟩ := htable n
    rw [haccs, hwatch]
    exact ⟨by rw [hnr]; exact hsmall _ rfl _ (hcount _),
      by rw [hnw]; exact hsmall _ rfl _ (hcount _)⟩
  · obtain ⟨-, -, hnk⟩ := htable n
    rw [haccs, hwatch, hnk]
    simp only [Metrics.empty, List.map_nil, List.not_mem_nil, false_or]
    rfl
  · have hlog : (Event.faults es).length + 0 =
        (b0.performAll ops).faultLog.length + b0.removedAlong ops := faults_eventsAlong hroom
    have hle : (Event.faults es).length ≤ (ops.map BusOp.calls).sum := faults_eventsAlong_le b0 ops
    rw [hwatch, hf, hsmall Metrics.empty.faults rfl _ hle, ← hlog]
    rfl

/-- The books of a Blue Pill's RCC block and gated port C: a write refused while the port's clock
is off, the clock switched on, the write again, a read back, the log cleared, the LED toggled, a
reset, and a read where no window is. -/
theorem trace_metrics_agree_gatedPort :
    let ops : List BusOp := [.write 0x40011004 0x44244444, .setBits 0x40021018 0x10,
      .write 0x40011004 0x44244444, .read 0x40011004, .clearFaults, .toggleBits 0x4001100C 0x2000,
      .reset, .read 0x50000000]
    (∀ w ∈ gatedPort.windows, w.Fits) ∧ (ops.map BusOp.calls).sum < 2 ^ 64 ∧
      (watched "bluepill" gatedPort.windows true).Books ops := by
  intro ops
  exact ⟨by decide, by decide,
    trace_metrics_agree "bluepill" gatedPort.windows true ops (by decide) (by decide)⟩

end Bus

end Heartbeat
