import Heartbeat.Blinker
import Heartbeat.Bus.Build
import Heartbeat.Session.Config

/-!
# Sessions

A session runs the blink loop against a simulated bus. Its busy-wait counts iterations and
charges `nopCycles` cycles to the bus's counter for each; after every step it reports the
iterations of that step to the bus's observers and records the LED level, read without an
access from the output register.

A run configures, then steps up to the toggle count; with `stopOnFault` it stops as soon as the
fault log is not empty (already after configuration). Its summary passes when no fault was
logged, some level differs from the level before configuration, and the LED pin, where the
output register's model has pins, ended up an output.

* `Rig` : the bus and the busy-wait counter, the machine the blinker drives;
* `Session`, `Session.withBus`, `Session.fromProfile`;
* `Session.configure`, `step`, `run`, `summary`, `ledLevel`, `ledPin`;
* `StopReason`, `Summary`, `Summary.passed`.
-/

namespace Heartbeat

/-- The bus and the busy-wait's iteration counter; every iteration costs `nopCycles` cycles. -/
structure Rig (ω : Type) where
  bus : Bus ω
  nopCycles : UInt64
  iterations : UInt64

instance {ω : Type} [Observer ω] : RegisterBus (Rig ω) where
  read m r :=
    let (v, b) := m.bus.read r.addr
    (v, { m with bus := b })
  write m r v := { m with bus := m.bus.write r.addr v }

namespace Rig

variable {ω : Type}

/-- One busy-wait iteration: counted, and `nopCycles` cycles charged to the bus's counter, which
wraps. An iteration counter already at its maximum halts the bus. -/
def nop (m : Rig ω) : Rig ω :=
  { m with
    iterations := m.iterations + 1
    bus := { m.bus with
      cycle := m.bus.cycle + m.nopCycles
      halted := if m.iterations = 0xFFFFFFFFFFFFFFFF then some .iterations else m.bus.halted } }

/-- `count` iterations at once: the counters move by `count`, and the bus halts when the iteration
counter passes its maximum on the way. -/
def spinBy (m : Rig ω) (count : Nat) : Rig ω :=
  { m with
    iterations := m.iterations + UInt64.ofNat count
    bus := { m.bus with
      cycle := m.bus.cycle + UInt64.ofNat count * m.nopCycles
      halted := if m.iterations.toNat + count ≥ UInt64.size then some .iterations else m.bus.halted } }

theorem spinBy_zero (m : Rig ω) : m.spinBy 0 = m := by
  have h : ¬ m.iterations.toNat + 0 ≥ UInt64.size := by have := m.iterations.toNat_lt_size; omega
  simp only [spinBy, if_neg h]
  simp

/-- The halting flag after one more iteration, while the counter passes its maximum at most
once: the counter is at its maximum just before the iteration that passes it. -/
theorem halted_nop_spinBy (m : Rig ω) (count : Nat) (h : count < UInt64.size / 2) :
    (if m.iterations + UInt64.ofNat count = 0xFFFFFFFFFFFFFFFF then some Overflow.iterations
      else if m.iterations.toNat + count ≥ UInt64.size then some .iterations else m.bus.halted) =
    if m.iterations.toNat + (count + 1) ≥ UInt64.size then some .iterations else m.bus.halted := by
  have hi := m.iterations.toNat_lt
  have hsize : UInt64.size = 18446744073709551616 := rfl
  have hmax : m.iterations + UInt64.ofNat count = 0xFFFFFFFFFFFFFFFF ↔
      m.iterations.toNat + count = UInt64.size - 1 := by
    rw [← UInt64.toNat_inj, UInt64.toNat_add, UInt64.toNat_ofNat']
    constructor <;> intro e
    · simp at e; omega
    · simp; omega
  by_cases hlast : m.iterations.toNat + count = UInt64.size - 1
  · rw [if_pos (hmax.mpr hlast), if_pos (by omega)]
  · rw [if_neg (fun e => hlast (hmax.mp e))]
    by_cases hover : m.iterations.toNat + count ≥ UInt64.size
    · rw [if_pos hover, if_pos (by omega)]
    · rw [if_neg hover, if_neg (by omega)]

theorem nop_spinBy (m : Rig ω) (count : Nat) (h : count < UInt64.size / 2) :
    (m.spinBy count).nop = m.spinBy (count + 1) := by
  have hsucc : UInt64.ofNat (count + 1) = UInt64.ofNat count + 1 := by
    rw [UInt64.ofNat_add]; rfl
  have hit : m.iterations + UInt64.ofNat count + 1 = m.iterations + UInt64.ofNat (count + 1) := by
    rw [hsucc]; grind
  have hcyc : m.bus.cycle + UInt64.ofNat count * m.nopCycles + m.nopCycles =
      m.bus.cycle + UInt64.ofNat (count + 1) * m.nopCycles := by
    rw [hsucc]; grind
  simp only [nop, spinBy, hit, hcyc]
  congr 2
  exact halted_nop_spinBy m count h

theorem repeat_nop (m : Rig ω) (count : Nat) (h : count < UInt64.size / 2) :
    Nat.repeat nop count m = m.spinBy count := by
  induction count with
  | zero => exact (spinBy_zero m).symm
  | succ count ih =>
    rw [Nat.repeat, ih (by omega), nop_spinBy m count (by omega)]

end Rig

instance {ω : Type} : Spin (Rig ω) where
  nop := Rig.nop
  spin m count := m.spinBy count.toNat
  spin_eq_repeat m count :=
    (Rig.repeat_nop m count.toNat (Nat.lt_trans count.toNat_lt_size (by decide))).symm

inductive StopReason where
  | toggleLimit
  | fault
  deriving DecidableEq, Repr

structure Summary where
  board : String
  toggles : UInt64
  delayIterations : UInt64
  cycles : UInt64
  /-- The LED level before configuration. -/
  initialLevel : Bool
  /-- The LED level after each step. -/
  levels : List Bool
  faults : List Fault
  stopReason : StopReason
  /-- The LED pin at the end, where the output register's model has pins. -/
  ledPin : Option PinState
  deriving DecidableEq, Repr

instance : Inhabited Summary := ⟨⟨"", 0, 0, 0, false, [], [], .toggleLimit, none⟩⟩

/-- The LED changed level at least once, no fault was logged, and the pin, where there is one,
is an output. -/
def Summary.passed (s : Summary) : Bool :=
  s.faults.isEmpty && s.levels.any (· != s.initialLevel) &&
    (match s.ledPin with
     | some p => p.output
     | none => true)

/-- A session: the machine, the blink loop, the settings, the LED level before configuration,
and the levels after each step, newest first. -/
structure Session (ω : Type) where
  rig : Rig ω
  blinker : Blinker
  config : SimConfig
  initialLevel : Bool
  levelsRev : List Bool

namespace Session

variable {ω : Type}

def bus (s : Session ω) : Bus ω := s.rig.bus

/-- The target, with the delay count the settings give. -/
def target (s : Session ω) : BlinkTarget := s.blinker.target

/-- The levels after each step, oldest first. -/
def levels (s : Session ω) : List Bool := s.levelsRev.reverse

/-- Runs a query that may overflow; on overflow the bus halts. -/
def probe {α : Type} (s : Session ω) (q : Session ω → Except Overflow α) (d : α) :
    α × Session ω :=
  match q s with
  | .ok a => (a, s)
  | .error e => (d, { s with rig := { s.rig with bus := s.rig.bus.halt e } })

def ledLevel (s : Session ω) : Except Overflow Bool := do
  let o := s.target.output
  match ← s.bus.peek o.register.addr with
  | some v => pure (v &&& o.mask != 0)
  | none => pure false

def ledPin (s : Session ω) : Except Overflow (Option PinState) :=
  s.bus.pinState s.target.output.register.addr s.target.output.pin

/-- A session on a bus: gating as the settings say, the delay count replaced, nothing
configured yet. -/
def withBus (b : Bus ω) (t : BlinkTarget) (c : SimConfig) : Session ω :=
  let t := { t with delayCount := c.delayFor t.delayCount }
  let s : Session ω :=
    ⟨⟨{ b with gating := c.clockGating }, c.nopCycles.toUInt64, 0⟩, Blinker.start t, c, false, []⟩
  let (level, s) := s.probe ledLevel false
  { s with initialLevel := level }

def fromProfile (p : Profile) (c : SimConfig) (watch : ω) : Except BusError (Session ω) := do
  let b ← Bus.fromProfile p watch
  match p.target? with
  | some t => pure (withBus b t c)
  -- validation leaves no profile without a target
  | none => throw (.profile (.clockBitOutOfRange p.led.clock.bit))

variable [Observer ω]

def configure (s : Session ω) : Session ω :=
  let (k, m) := s.blinker.configure s.rig
  { s with blinker := k, rig := m }

/-- One step: toggle, busy-wait, report the iterations, record the new level. -/
def step (s : Session ω) : Bool × Session ω :=
  let before := s.rig.iterations
  let (k, m) := s.blinker.step s.rig
  let m := { m with bus := m.bus.notifyDelay (m.iterations - before) }
  let (level, s) := probe { s with blinker := k, rig := m } ledLevel false
  (level, { s with levelsRev := level :: s.levelsRev })

def summary (s : Session ω) (stop : StopReason) : Except Overflow Summary := do
  let ledPin ← s.ledPin
  pure ⟨s.bus.board, s.levelsRev.length.toUInt64, s.rig.iterations, s.bus.cycle, s.initialLevel,
    s.levels, s.bus.faults, stop, ledPin⟩

/-- The summary, or on overflow a default one with the bus halted. -/
def finish (s : Session ω) (stop : StopReason) : Summary × Session ω :=
  s.probe (·.summary stop) default

/-- Steps up to `n` times; with `stopOnFault`, stops after the first step that leaves the fault
log non-empty. -/
def steps : Nat → Session ω → Summary × Session ω
  | 0, s => s.finish .toggleLimit
  | n + 1, s =>
    let s := (s.step).2
    if s.config.stopOnFault && !s.bus.faultLog.isEmpty then s.finish .fault
    else steps n s

/-- Configures, then steps up to `toggles` times. -/
def run (s : Session ω) (toggles : Nat) : Summary × Session ω :=
  let s := s.configure
  if s.config.stopOnFault && !s.bus.faultLog.isEmpty then s.finish .fault
  else steps toggles s

end Session

end Heartbeat
