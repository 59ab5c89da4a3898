import Heartbeat.Proofs.Routing
import Heartbeat.Proofs.Run

/-!
# What a bus tells its observers

An observer is a state the bus updates on three events: an access, with the name of the first
window holding its address; a fault, as it is logged; a finished busy-wait, with the cycle it ends
at. Whatever an observer computes is therefore a fold of its callbacks over the events it is told
(`hear`), and this module names, for each operation, the events the bus tells.

An access through the register interface is told once, with the value it answered or wrote and
the cycle counter just after its own tick, then the fault it logged, if any; a read-modify-write
is a read, then a write. A busy-wait is told with the cycle it ends at. A direct write, the gating
switch, clearing the log and a reset tell nothing.

On a bus that runs, whose windows fit and whose counter has room for its accesses (`Bus.Room`),
each operation is told as `eventsOf` says (`perform_watch`), the log grows by the faults told
unless the operation empties it (`perform_log`), and the accesses are stamped with the next cycles
in turn (`stamps_accessesOf`). A run is the same over its operations in order: `performAll_watch`,
`faults_eventsAlong`, `stamps_accessesAlong`, `named_eventsAlong`.

* `Event`, `hear`, `ownerOf`;
* `Bus.eventsOf`, `Bus.accessesOf`, `Bus.removedBy` and their runs `eventsAlong`, `accessesAlong`,
  `removedAlong`;
* `Bus.Room`, `Bus.Told`.
-/

namespace Heartbeat

/-- What a bus tells its observers. -/
inductive Event where
  | access (name : Option String) (acc : Access)
  | fault (f : Fault)
  | delay (iterations cycle : UInt64)
  deriving DecidableEq, Repr

namespace Event

def access? : Event → Option Access
  | .access _ acc => some acc
  | _ => none

def fault? : Event → Option Fault
  | .fault f => some f
  | _ => none

def accesses (es : List Event) : List Access := es.filterMap access?

def faults (es : List Event) : List Fault := es.filterMap fault?

theorem accesses_append (es es' : List Event) :
    accesses (es ++ es') = accesses es ++ accesses es' := List.filterMap_append

theorem faults_append (es es' : List Event) : faults (es ++ es') = faults es ++ faults es' :=
  List.filterMap_append

def tell {ω : Type} [Observer ω] (w : ω) : Event → ω
  | .access n acc => Observer.onAccess w n acc
  | .fault f => Observer.onFault w f
  | .delay i c => Observer.onDelay w i c

end Event

def hear {ω : Type} [Observer ω] (w : ω) (es : List Event) : ω := es.foldl Event.tell w

section Hear

variable {ω : Type} [Observer ω]

@[simp] theorem hear_nil (w : ω) : hear w [] = w := rfl

@[simp] theorem hear_cons (w : ω) (e : Event) (es : List Event) :
    hear w (e :: es) = hear (Event.tell w e) es := rfl

theorem hear_append (w : ω) (es es' : List Event) : hear w (es ++ es') = hear (hear w es) es' :=
  List.foldl_append

end Hear

/-! ### The window an address belongs to -/

def ownerOf (ws : List Window) (a : UInt32) : Option String :=
  (ws.find? fun w => decide (w.Holds a)).map (·.name)

theorem find?_of_firstHolding {ws : List Window} {a : UInt32} {i : Nat} {w : Window}
    (hf : FirstHolding ws a i w) : ws.find? (fun u => decide (u.Holds a)) = some w := by
  obtain ⟨hi, hw, hbefore⟩ := hf
  obtain ⟨hlt, rfl⟩ := List.getElem?_eq_some_iff.mp hi
  rw [List.find?_eq_some_iff_append]
  refine ⟨by simpa using hw, ws.take i, ws.drop (i + 1), ?_, fun u hu => by simpa using hbefore u hu⟩
  rw [← List.drop_eq_getElem_cons hlt, List.take_append_drop]

theorem ownerOf_cold {ws ws' : List Window} (h : ws'.map Window.cold = ws.map Window.cold)
    (a : UInt32) : ownerOf ws' a = ownerOf ws a := by
  have key : ∀ l : List Window,
      ownerOf l a = ((l.map Window.cold).find? fun w => decide (w.Holds a)).map (·.name) := by
    intro l
    simp only [ownerOf, List.find?_map, Option.map_map]
    rfl
  rw [key, h, ← key]

namespace Bus

variable {ω : Type}

theorem nameAt_eq_ownerOf {b : Bus ω} (hfit : b.Fits) (a : UInt32) :
    b.nameAt a = .ok (ownerOf b.windows a) := by
  rcases locate_fits b.windows a hfit with ⟨i, w, hloc, hf⟩ | ⟨hloc, hn⟩
  · simp [nameAt, hloc, ownerOf, find?_of_firstHolding hf]
  · have hnone : b.windows.find? (fun u => decide (u.Holds a)) = none :=
      List.find?_eq_none.mpr fun u hu => by simpa using hn u hu
    simp [nameAt, hloc, ownerOf, hnone]

/-! ### The events of each operation -/

/-- The fault a direct read gives, which a read through the register interface logs. -/
def readFault (b : Bus ω) (a : UInt32) : List Fault :=
  match b.readWord a with
  | .ok (.error f) => [f]
  | _ => []

def writeFault (b : Bus ω) (a v : UInt32) : List Fault :=
  match b.writeWord a v with
  | .ok (.error f) => [f]
  | _ => []

variable [Observer ω]

/-- A read as it is told: the value it answered, the cycle counter after its tick. -/
def readAccess (b : Bus ω) (a : UInt32) : Access := ⟨.read, a, (b.read a).1, (b.read a).2.cycle⟩

def writeAccess (b : Bus ω) (a v : UInt32) : Access := ⟨.write, a, v, (b.write a v).cycle⟩

def readEvents (b : Bus ω) (a : UInt32) : List Event :=
  .access (ownerOf b.windows a) (b.readAccess a) :: (b.readFault a).map .fault

def writeEvents (b : Bus ω) (a v : UInt32) : List Event :=
  .access (ownerOf b.windows a) (b.writeAccess a v) :: (b.writeFault a v).map .fault

/-- A read-modify-write: the read, then the write of the value read, changed by `f`. -/
def modifyEvents (b : Bus ω) (a : UInt32) (f : UInt32 → UInt32) : List Event :=
  b.readEvents a ++ (b.read a).2.writeEvents a (f (b.read a).1)

def eventsOf (b : Bus ω) : BusOp → List Event
  | .read a => b.readEvents a
  | .write a v => b.writeEvents a v
  | .setBits a m => b.modifyEvents a (· ||| m)
  | .clearBits a m => b.modifyEvents a (· &&& ~~~m)
  | .toggleBits a m => b.modifyEvents a (· ^^^ m)
  | .writeWord _ _ => []
  | .setClockGating _ => []
  | .clearFaults => []
  | .notifyDelay n => [.delay n b.cycle]
  | .reset => []

def modifyAccesses (b : Bus ω) (a : UInt32) (f : UInt32 → UInt32) : List Access :=
  [b.readAccess a, (b.read a).2.writeAccess a (f (b.read a).1)]

def accessesOf (b : Bus ω) : BusOp → List Access
  | .read a => [b.readAccess a]
  | .write a v => [b.writeAccess a v]
  | .setBits a m => b.modifyAccesses a (· ||| m)
  | .clearBits a m => b.modifyAccesses a (· &&& ~~~m)
  | .toggleBits a m => b.modifyAccesses a (· ^^^ m)
  | _ => []

/-- The faults an operation takes out of the log: all of them when it empties the log. -/
def removedBy (b : Bus ω) : BusOp → Nat
  | .clearFaults => b.faultLog.length
  | .reset => if b.reset.2 = none then b.faultLog.length else 0
  | _ => 0

/-- The events of operations in order, each told by the bus the ones before it left. -/
def eventsAlong : Bus ω → List BusOp → List Event
  | _, [] => []
  | b, op :: ops => b.eventsOf op ++ (b.perform op).eventsAlong ops

def accessesAlong : Bus ω → List BusOp → List Access
  | _, [] => []
  | b, op :: ops => b.accessesOf op ++ (b.perform op).accessesAlong ops

def removedAlong : Bus ω → List BusOp → Nat
  | _, [] => 0
  | b, op :: ops => b.removedBy op + (b.perform op).removedAlong ops

end Bus

def BusOp.calls : BusOp → Nat
  | .read _ => 1
  | .write _ _ => 1
  | .setBits _ _ => 2
  | .clearBits _ _ => 2
  | .toggleBits _ _ => 2
  | _ => 0

/-- Whether an operation empties the fault log, or may. -/
def BusOp.clears : BusOp → Bool
  | .clearFaults => true
  | .reset => true
  | _ => false

/-- Every access event names the owner of its address among `ws`. -/
def Event.Named (ws : List Window) (es : List Event) : Prop :=
  ∀ n acc, Event.access n acc ∈ es → n = ownerOf ws acc.address

namespace Bus

variable {ω : Type}

/-! ### One operation -/

/-- A bus that runs, whose windows can be searched, and whose cycle counter has room for `k` more
ticks. -/
structure Room (b : Bus ω) (k : Nat) : Prop where
  running : b.halted = none
  fits : b.Fits
  room : b.cycle.toNat + k < 2 ^ 64

theorem Room.mono {b : Bus ω} {k k' : Nat} (h : b.Room k) (hk : k' ≤ k) : b.Room k' :=
  ⟨h.running, h.fits, by have := h.room; omega⟩

theorem cycle_ne_max {c : UInt64} {k : Nat} (hk : 1 ≤ k) (h : c.toNat + k < 2 ^ 64) :
    c ≠ 0xFFFFFFFFFFFFFFFF := by
  intro hc
  have hmax : (0xFFFFFFFFFFFFFFFF : UInt64).toNat = 2 ^ 64 - 1 := rfl
  rw [hc, hmax] at h
  omega

theorem ticks_zero {b b' : Bus ω} (hh : b'.halted = b.halted) (hc : b'.cycle = b.cycle) :
    Ticks b b' 0 where
  running := by
    rw [hh]
    have := b.cycle.toNat_lt
    simp [this]
  cycle _ := by simp [hc]

theorem Ticks.cycle_toNat {b b' : Bus ω} {k : Nat} (h : Ticks b b' k) (hh : b.halted = none)
    (hroom : b.cycle.toNat + k < 2 ^ 64) :
    b'.halted = none ∧ b'.cycle.toNat = b.cycle.toNat + k := by
  have hr := h.running.mpr ⟨hh, hroom⟩
  exact ⟨hr, by rw [h.cycle hr, toNat_add_ofNat hroom]⟩

/-- A reset keeps the observers and the halting flag; it empties the log and zeroes the counter
when every reset value takes, and leaves both otherwise. -/
theorem reset_cases (b : Bus ω) :
    b.reset.1.watch = b.watch ∧ b.reset.1.halted = b.halted ∧
      (b.reset.2 = none → b.reset.1.faultLog = [] ∧ b.reset.1.cycle = 0) ∧
      (b.reset.2 ≠ none → b.reset.1.faultLog = b.faultLog ∧ b.reset.1.cycle = b.cycle) := by
  rcases hp : powerOnAll b.windows with ⟨ws, _ | f⟩ <;> simp [reset, hp]

variable [Observer ω]

/-- `b'` is `b` with its observers told `es` and the faults among them logged. -/
structure Told (b b' : Bus ω) (es : List Event) : Prop where
  watch : b'.watch = hear b.watch es
  log : b'.faultLog = (Event.faults es).reverse ++ b.faultLog

theorem Told.trans {b1 b2 b3 : Bus ω} {es es' : List Event} (h1 : Told b1 b2 es)
    (h2 : Told b2 b3 es') : Told b1 b3 (es ++ es') where
  watch := by rw [h2.watch, h1.watch, hear_append]
  log := by rw [h2.log, h1.log, Event.faults_append, List.reverse_append, List.append_assoc]

section Access

variable {b : Bus ω} (hfit : b.Fits) (hh : b.halted = none) (hc : b.cycle ≠ 0xFFFFFFFFFFFFFFFF)
include hfit hh hc

theorem read_told (a : UInt32) : Told b (b.read a).2 (b.readEvents a) := by
  have hn := nameAt_eq_ownerOf hfit a
  obtain ⟨r, hr⟩ := readWord_ok hfit (a := a)
  cases r with
  | ok x =>
    constructor <;> simp [read, hh, readAt, tick_eq b hc, hr, hn, readEvents, readAccess,
      readFault, Event.faults, Event.fault?, Event.tell]
  | error f =>
    constructor <;> simp [read, hh, readAt, tick_eq b hc, hr, hn, readEvents, readAccess,
      readFault, Event.faults, List.filterMap_cons, Event.fault?, Event.tell, record]

theorem write_told (a v : UInt32) : Told b (b.write a v) (b.writeEvents a v) := by
  have hn := nameAt_eq_ownerOf hfit a
  rcases writeWord_cases hfit (a := a) v with ⟨i, w, d, hw⟩ | ⟨f, hw⟩
  · constructor <;> simp [write, hh, writeAt, tick_eq b hc, hw, hn, writeEvents, writeAccess,
      writeFault, Event.faults, Event.fault?, Event.tell]
  · constructor <;> simp [write, hh, writeAt, tick_eq b hc, hw, hn, writeEvents, writeAccess,
      writeFault, Event.faults, List.filterMap_cons, Event.fault?, Event.tell, record]

end Access

section Step

variable {b : Bus ω}

theorem modify_told (h : b.Room 2) (a : UInt32) (f : UInt32 → UInt32) :
    Told b ((b.read a).2.write a (f (b.read a).1)) (b.modifyEvents a f) := by
  have hread := read_told h.fits h.running (cycle_ne_max (by omega) h.room) a
  obtain ⟨hrun, hcycle⟩ := (read_ticks h.fits a).cycle_toNat h.running (by have := h.room; omega)
  have hwrite := write_told (read_fits h.fits a) hrun
    (cycle_ne_max (k := 1) (Nat.le_refl 1) (by have := h.room; omega)) a (f (b.read a).1)
  exact hread.trans hwrite

/-- **An operation is told as `eventsOf` says**, and, unless it empties the log, logs exactly the
faults it tells. -/
theorem perform_told {op : BusOp} (h : b.Room op.calls) (hop : op.clears = false) :
    Told b (b.perform op) (b.eventsOf op) := by
  cases op with
  | read a => exact read_told h.fits h.running (cycle_ne_max (Nat.le_refl 1) h.room) a
  | write a v => exact write_told h.fits h.running (cycle_ne_max (Nat.le_refl 1) h.room) a v
  | setBits a m => exact modify_told h a (· ||| m)
  | clearBits a m => exact modify_told h a (· &&& ~~~m)
  | toggleBits a m => exact modify_told h a (· ^^^ m)
  | writeWord a v =>
    rcases writeWord_cases h.fits (a := a) v with ⟨i, w, d, hw⟩ | ⟨f, hw⟩ <;>
      exact ⟨by simp [perform, hw, eventsOf], by simp [perform, hw, eventsOf, Event.faults]⟩
  | setClockGating enabled => exact ⟨rfl, rfl⟩
  | clearFaults => cases hop
  | notifyDelay n => exact ⟨rfl, rfl⟩
  | reset => cases hop

theorem perform_watch {op : BusOp} (h : b.Room op.calls) :
    (b.perform op).watch = hear b.watch (b.eventsOf op) := by
  cases hop : op.clears with
  | false => exact (perform_told h hop).watch
  | true =>
    cases op with
    | clearFaults => rfl
    | reset => exact (reset_cases b).1
    | _ => cases hop

/-- The log after an operation, counted: the faults it tells come in, the faults it empties go
out. -/
theorem perform_faults {op : BusOp} (h : b.Room op.calls) :
    (b.perform op).faultLog.length + b.removedBy op =
      (Event.faults (b.eventsOf op)).length + b.faultLog.length := by
  cases hop : op.clears with
  | false =>
    have hlog := (perform_told h hop).log
    have hnone : b.removedBy op = 0 := by cases op <;> first | rfl | cases hop
    rw [hlog, hnone, List.length_append, List.length_reverse, Nat.add_zero]
  | true =>
    cases op with
    | clearFaults => simp [perform, clearFaults, removedBy, eventsOf, Event.faults]
    | reset =>
      obtain ⟨-, -, hnone, hsome⟩ := reset_cases b
      by_cases hr : b.reset.2 = none
      · simp [perform, removedBy, eventsOf, Event.faults, hr, (hnone hr).1]
      · simp [perform, removedBy, eventsOf, Event.faults, hr, (hsome hr).1]
    | _ => cases hop

theorem perform_ticks (hfit : b.Fits) {op : BusOp} (hop : op ≠ .reset) :
    Ticks b (b.perform op) op.calls := by
  cases op with
  | read a => exact read_ticks hfit a
  | write a v => exact write_ticks hfit a v
  | setBits a m => exact modify_ticks hfit a _
  | clearBits a m => exact modify_ticks hfit a _
  | toggleBits a m => exact modify_ticks hfit a _
  | writeWord a v =>
    rcases writeWord_cases hfit (a := a) v with ⟨i, w, d, hw⟩ | ⟨f, hw⟩ <;>
      exact ticks_zero (by simp [perform, hw]) (by simp [perform, hw])
  | setClockGating enabled => exact ticks_zero rfl rfl
  | clearFaults => exact ticks_zero rfl rfl
  | notifyDelay n => exact ticks_zero rfl rfl
  | reset => exact absurd rfl hop

theorem perform_fits (hfit : b.Fits) (op : BusOp) : (b.perform op).Fits :=
  fits_of_cold (perform_cold b op) hfit

/-- Room for an operation's accesses and `k` more is room for `k` more after it: the counter
moves on by its accesses, or a reset puts it back. -/
theorem perform_room {op : BusOp} {k : Nat} (h : b.Room (op.calls + k)) : (b.perform op).Room k := by
  have hfits := perform_fits h.fits op
  by_cases hop : op = .reset
  · subst hop
    change (b.reset.1).Room k
    obtain ⟨-, hhalt, hnone, hsome⟩ := reset_cases b
    have hcycle : (b.reset.1).cycle.toNat ≤ b.cycle.toNat := by
      by_cases hr : b.reset.2 = none
      · simp [(hnone hr).2]
      · exact Nat.le_of_eq (congrArg UInt64.toNat (hsome hr).2)
    exact ⟨hhalt.trans h.running, hfits, by have := h.room; simp only [BusOp.calls] at this; omega⟩
  · obtain ⟨hrun, hcycle⟩ := (perform_ticks h.fits hop).cycle_toNat h.running
      (by have := h.room; omega)
    exact ⟨hrun, hfits, by have := h.room; omega⟩

theorem stamps_modifyAccesses (h : b.Room 2) (a : UInt32) (f : UInt32 → UInt32) :
    (b.modifyAccesses a f).map (·.cycle.toNat) = List.range' (b.cycle.toNat + 1) 2 := by
  have hroom := h.room
  obtain ⟨hrun, hc1⟩ := (read_ticks h.fits a).cycle_toNat h.running (by omega)
  obtain ⟨-, hc2⟩ := (write_ticks (read_fits h.fits a) a (f (b.read a).1)).cycle_toNat hrun
    (by omega)
  simp [modifyAccesses, readAccess, writeAccess, hc1, hc2, List.range'_succ]

theorem stamps_accessesOf {op : BusOp} (h : b.Room op.calls) :
    (b.accessesOf op).map (·.cycle.toNat) = List.range' (b.cycle.toNat + 1) op.calls := by
  cases op with
  | read a =>
    obtain ⟨-, hc1⟩ := (read_ticks h.fits a).cycle_toNat h.running h.room
    simp [accessesOf, readAccess, hc1, BusOp.calls]
  | write a v =>
    obtain ⟨-, hc1⟩ := (write_ticks h.fits a v).cycle_toNat h.running h.room
    simp [accessesOf, writeAccess, hc1, BusOp.calls]
  | setBits a m => exact stamps_modifyAccesses h a (· ||| m)
  | clearBits a m => exact stamps_modifyAccesses h a (· &&& ~~~m)
  | toggleBits a m => exact stamps_modifyAccesses h a (· ^^^ m)
  | _ => rfl

end Step

theorem accesses_eventsOf (b : Bus ω) (op : BusOp) :
    Event.accesses (b.eventsOf op) = b.accessesOf op := by
  cases op <;> simp [eventsOf, accessesOf, readEvents, writeEvents, modifyEvents, modifyAccesses,
    Event.accesses, Event.access?, List.filterMap_cons, Function.comp_def]

theorem named_eventsOf (b : Bus ω) (op : BusOp) : Event.Named b.windows (b.eventsOf op) := by
  have hread : ∀ a, Event.Named b.windows (b.readEvents a) := by
    intro a n acc he
    simp only [readEvents, List.mem_cons, Event.access.injEq, List.mem_map, reduceCtorEq,
      and_false, exists_false, or_false] at he
    obtain ⟨rfl, rfl⟩ := he
    rfl
  have hwrite : ∀ (c : Bus ω) a v, c.windows = b.windows →
      Event.Named b.windows (c.writeEvents a v) := by
    intro c a v hc n acc he
    simp only [writeEvents, List.mem_cons, Event.access.injEq, List.mem_map, reduceCtorEq,
      and_false, exists_false, or_false] at he
    obtain ⟨rfl, rfl⟩ := he
    rw [hc]
    rfl
  have hmodify : ∀ a f, Event.Named b.windows (b.modifyEvents a f) := by
    intro a f n acc he
    rcases List.mem_append.mp he with he | he
    · exact hread a n acc he
    · exact hwrite _ a _ (read_frame b a).1 n acc he
  cases op with
  | read a => exact hread a
  | write a v => exact hwrite b a v rfl
  | setBits a m => exact hmodify a (· ||| m)
  | clearBits a m => exact hmodify a (· &&& ~~~m)
  | toggleBits a m => exact hmodify a (· ^^^ m)
  | notifyDelay n => intro n acc he; simp [eventsOf] at he
  | _ => intro n acc he; simp [eventsOf] at he

theorem length_accessesOf (b : Bus ω) (op : BusOp) : (b.accessesOf op).length = op.calls := by
  cases op <;> rfl

theorem faults_readEvents (b : Bus ω) (a : UInt32) :
    Event.faults (b.readEvents a) = b.readFault a := by
  simp [readEvents, Event.faults, Event.fault?, List.filterMap_cons, Function.comp_def]

theorem faults_writeEvents (b : Bus ω) (a v : UInt32) :
    Event.faults (b.writeEvents a v) = b.writeFault a v := by
  simp [writeEvents, Event.faults, Event.fault?, List.filterMap_cons, Function.comp_def]

theorem faults_eventsOf_le (b : Bus ω) (op : BusOp) :
    (Event.faults (b.eventsOf op)).length ≤ op.calls := by
  have hread : ∀ (c : Bus ω) a, (c.readFault a).length ≤ 1 := by
    intro c a
    unfold readFault
    split <;> simp
  have hwrite : ∀ (c : Bus ω) a v, (c.writeFault a v).length ≤ 1 := by
    intro c a v
    unfold writeFault
    split <;> simp
  have hmodify : ∀ a f, (Event.faults (b.modifyEvents a f)).length ≤ 2 := by
    intro a f
    rw [modifyEvents, Event.faults_append, List.length_append, faults_readEvents,
      faults_writeEvents]
    have := hread b a
    have := hwrite (b.read a).2 a (f (b.read a).1)
    omega
  cases op with
  | read a => rw [eventsOf, faults_readEvents]; exact hread b a
  | write a v => rw [eventsOf, faults_writeEvents]; exact hwrite b a v
  | setBits a m => exact hmodify a (· ||| m)
  | clearBits a m => exact hmodify a (· &&& ~~~m)
  | toggleBits a m => exact hmodify a (· ^^^ m)
  | _ => simp [eventsOf, Event.faults, Event.fault?, List.filterMap_cons]

/-! ### A run -/

theorem performAll_cons (b : Bus ω) (op : BusOp) (ops : List BusOp) :
    b.performAll (op :: ops) = (b.perform op).performAll ops := rfl

theorem performAll_append (b : Bus ω) (ops ops' : List BusOp) :
    b.performAll (ops ++ ops') = (b.performAll ops).performAll ops' :=
  List.foldl_append

theorem accessesAlong_append : ∀ (b : Bus ω) (ops ops' : List BusOp),
    b.accessesAlong (ops ++ ops') = b.accessesAlong ops ++ (b.performAll ops).accessesAlong ops'
  | _, [], _ => rfl
  | b, op :: ops, ops' => by
    rw [List.cons_append, accessesAlong, accessesAlong, accessesAlong_append, List.append_assoc,
      performAll_cons]

theorem performAll_room : ∀ {b : Bus ω} {ops : List BusOp} {k : Nat},
    b.Room ((ops.map BusOp.calls).sum + k) → (b.performAll ops).Room k
  | _, [], _, h => by simpa [performAll] using h
  | b, op :: ops, k, h => by
    rw [List.map_cons, List.sum_cons, Nat.add_assoc] at h
    rw [performAll_cons]
    exact performAll_room (perform_room h)

theorem Room.head {b : Bus ω} {op : BusOp} {ops : List BusOp}
    (h : b.Room ((op :: ops).map BusOp.calls).sum) :
    b.Room op.calls ∧ (b.perform op).Room (ops.map BusOp.calls).sum := by
  rw [List.map_cons, List.sum_cons] at h
  exact ⟨h.mono (Nat.le_add_right _ _), perform_room h⟩

/-- **Observers hear the run's events.** On a bus with room for a run's accesses, every observer
ends as its callbacks folded over the events of the operations in order. -/
theorem performAll_watch : ∀ {b : Bus ω} {ops : List BusOp}, b.Room (ops.map BusOp.calls).sum →
    (b.performAll ops).watch = hear b.watch (b.eventsAlong ops)
  | _, [], _ => rfl
  | b, op :: ops, h => by
    obtain ⟨hop, hrest⟩ := h.head
    rw [performAll_cons, performAll_watch hrest, perform_watch hop, eventsAlong, hear_append]

/-- Over a run, the faults told and the log's first length are the log's last length and the
faults the run emptied out. -/
theorem faults_eventsAlong : ∀ {b : Bus ω} {ops : List BusOp}, b.Room (ops.map BusOp.calls).sum →
    (Event.faults (b.eventsAlong ops)).length + b.faultLog.length =
      (b.performAll ops).faultLog.length + b.removedAlong ops
  | _, [], _ => by simp [eventsAlong, removedAlong, performAll, Event.faults]
  | b, op :: ops, h => by
    obtain ⟨hop, hrest⟩ := h.head
    have hstep := perform_faults hop
    have ih := faults_eventsAlong hrest
    rw [performAll_cons, eventsAlong, removedAlong, Event.faults_append, List.length_append]
    omega

theorem accesses_eventsAlong : ∀ (b : Bus ω) (ops : List BusOp),
    Event.accesses (b.eventsAlong ops) = b.accessesAlong ops
  | _, [] => rfl
  | b, op :: ops => by
    rw [eventsAlong, accessesAlong, Event.accesses_append, accesses_eventsOf, accesses_eventsAlong]

/-- Over a run every access is told with the owner of its address among the first windows, since
no operation moves, resizes or renames a window. -/
theorem named_eventsAlong : ∀ (b : Bus ω) (ops : List BusOp),
    Event.Named b.windows (b.eventsAlong ops)
  | _, [] => fun _ _ he => by simp [eventsAlong] at he
  | b, op :: ops => by
    intro n acc he
    rcases List.mem_append.mp he with he | he
    · exact named_eventsOf b op n acc he
    · rw [named_eventsAlong (b.perform op) ops n acc he, ownerOf_cold (perform_cold b op)]

theorem length_accessesAlong : ∀ (b : Bus ω) (ops : List BusOp),
    (b.accessesAlong ops).length = (ops.map BusOp.calls).sum
  | _, [] => rfl
  | b, op :: ops => by
    rw [accessesAlong, List.length_append, length_accessesOf, length_accessesAlong, List.map_cons,
      List.sum_cons]

theorem faults_eventsAlong_le : ∀ (b : Bus ω) (ops : List BusOp),
    (Event.faults (b.eventsAlong ops)).length ≤ (ops.map BusOp.calls).sum
  | _, [] => by simp [eventsAlong, Event.faults]
  | b, op :: ops => by
    rw [eventsAlong, Event.faults_append, List.length_append, List.map_cons, List.sum_cons]
    have := faults_eventsOf_le b op
    have := faults_eventsAlong_le (b.perform op) ops
    omega

/-- **Between resets the stamps run on.** Over a run with room and without a reset, the accesses
are stamped with the cycles after the counter, one each, in order. -/
theorem stamps_accessesAlong : ∀ {b : Bus ω} {ops : List BusOp},
    b.Room (ops.map BusOp.calls).sum → (∀ op ∈ ops, op ≠ .reset) →
      (b.accessesAlong ops).map (·.cycle.toNat) =
        List.range' (b.cycle.toNat + 1) (ops.map BusOp.calls).sum
  | _, [], _, _ => rfl
  | b, op :: ops, h, hr => by
    obtain ⟨hop, hrest⟩ := h.head
    have hnot : op ≠ .reset := hr op List.mem_cons_self
    have hcycle : (b.perform op).cycle.toNat = b.cycle.toNat + op.calls :=
      ((perform_ticks hop.fits hnot).cycle_toNat hop.running hop.room).2
    rw [accessesAlong, List.map_append, stamps_accessesOf hop,
      stamps_accessesAlong hrest fun o ho => hr o (List.mem_cons_of_mem op ho), hcycle,
      List.map_cons, List.sum_cons, Nat.add_right_comm, List.range'_append_1]

end Bus

end Heartbeat
