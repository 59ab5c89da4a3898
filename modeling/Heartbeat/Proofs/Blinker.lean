import Mathlib
import Heartbeat.Blinker

/-!
# The calls of the blink loop

The blink loop has three entry points that call each other: `step` toggles, `toggle` configures
unless the blinker is already blinking, and `configure` does nothing unless it has never run. A
machine driven by any sequence of them, in any order, sees the same calls: the configuration
first (the clock-enable bits set, then the pin's mode field cleared and then set, each one read
and one write of the value read with the mask applied), then one read and one write of the output
register for each toggle and step, and after each step its delay count of busy-wait iterations,
and no iteration anywhere else. Between entry points the blinker is never `configuring`.

To see the calls, a machine is wrapped in a `Recorder`, which logs each read with the value the
machine answered, each write with its value, and each busy-wait iteration, and passes the call on.

* `Call`, `Recorder` : the calls a machine receives, oldest first;
* `BlinkOp`, `Blinker.perform`, `Blinker.exec` : the entry points and runs of them;
* `configureCalls`, `toggleCalls`, `callsAfter` : the calls of the configuration, of a flip of the
  output bit, and of a run on a configured blinker;
* `exec_blinking` : a configured blinker stays as it is and makes the calls of `callsAfter`;
* `exec_start_calls` : every non-empty run from a fresh blinker.
-/

namespace Heartbeat

/-- A call a machine receives from the blink loop: a read with the value the machine answered, a
write with the value written, or one busy-wait iteration. -/
inductive Call where
  | read (r : Register) (v : UInt32)
  | write (r : Register) (v : UInt32)
  | nop
  deriving DecidableEq, Repr

namespace RegisterBus

variable {β : Type} [RegisterBus β]

theorem setBits_eq (b : β) (r : Register) (mask : UInt32) :
    setBits b r mask = write (read b r).2 r ((read b r).1 ||| mask) := rfl

theorem clearBits_eq (b : β) (r : Register) (mask : UInt32) :
    clearBits b r mask = write (read b r).2 r ((read b r).1 &&& ~~~mask) := rfl

theorem toggleBits_eq (b : β) (r : Register) (mask : UInt32) :
    toggleBits b r mask = write (read b r).2 r ((read b r).1 ^^^ mask) := rfl

end RegisterBus

/-- A machine and the calls made on it so far, oldest first. -/
structure Recorder (μ : Type) where
  machine : μ
  log : List Call

namespace Recorder

variable {μ : Type}

instance [RegisterBus μ] : RegisterBus (Recorder μ) where
  read x r := ((RegisterBus.read x.machine r).1,
    ⟨(RegisterBus.read x.machine r).2, x.log ++ [.read r (RegisterBus.read x.machine r).1]⟩)
  write x r v := ⟨RegisterBus.write x.machine r v, x.log ++ [.write r v]⟩

def nop [Spin μ] (x : Recorder μ) : Recorder μ := ⟨Spin.nop x.machine, x.log ++ [.nop]⟩

/-- A wait of a recorder is its iterations one by one, each logged. -/
instance [Spin μ] : Spin (Recorder μ) where
  nop := nop
  spin x count := Nat.repeat nop count.toNat x
  spin_eq_repeat _ _ := rfl

section Bus

variable [RegisterBus μ] (x : Recorder μ) (r : Register)

@[simp] theorem read_fst : (RegisterBus.read x r).1 = (RegisterBus.read x.machine r).1 := rfl

@[simp] theorem read_snd_machine :
    (RegisterBus.read x r).2.machine = (RegisterBus.read x.machine r).2 := rfl

@[simp] theorem read_snd_log :
    (RegisterBus.read x r).2.log = x.log ++ [.read r (RegisterBus.read x.machine r).1] := rfl

@[simp] theorem write_machine (v : UInt32) :
    (RegisterBus.write x r v).machine = RegisterBus.write x.machine r v := rfl

@[simp] theorem write_log (v : UInt32) : (RegisterBus.write x r v).log = x.log ++ [.write r v] :=
  rfl

end Bus

theorem repeat_nop [Spin μ] (x : Recorder μ) (n : Nat) :
    Nat.repeat nop n x = ⟨Nat.repeat Spin.nop n x.machine, x.log ++ List.replicate n .nop⟩ := by
  induction n with
  | zero => simp [Nat.repeat]
  | succ n ih =>
    rw [Nat.repeat, ih, Nat.repeat, nop, List.replicate_succ', List.append_assoc]

theorem spin_eq [Spin μ] (x : Recorder μ) (count : UInt32) :
    Spin.spin x count = ⟨Spin.spin x.machine count, x.log ++ List.replicate count.toNat .nop⟩ := by
  rw [Spin.spin_eq_repeat x.machine]
  exact repeat_nop x count.toNat

end Recorder

/-- The entry points of the blink loop. -/
inductive BlinkOp where
  | configure
  | toggle
  | step
  deriving DecidableEq, Repr

def BlinkOp.flips : BlinkOp → Bool
  | .configure => false
  | .toggle => true
  | .step => true

/-- The calls of the configuration, its reads answered `r1`, `r2` and `r3`: the clock-enable
bits set, the mode field cleared, then the mode bits set. -/
def configureCalls (t : BlinkTarget) (r1 r2 r3 : UInt32) : List Call :=
  [.read t.clock.register r1, .write t.clock.register (r1 ||| t.clock.mask),
    .read t.mode.register r2, .write t.mode.register (r2 &&& ~~~t.mode.mask),
    .read t.mode.register r3, .write t.mode.register (r3 ||| t.mode.bits)]

def toggleCalls (t : BlinkTarget) (r : UInt32) : List Call :=
  [.read t.output.register r, .write t.output.register (r ^^^ t.output.mask)]

/-- The calls of entry points on a configured blinker, the reads of the flips answered by `rs` in
turn: a flip for each toggle and step, and after each step its delay count of iterations. -/
def callsAfter (t : BlinkTarget) : List BlinkOp → List UInt32 → List Call
  | .configure :: ops, rs => callsAfter t ops rs
  | .toggle :: ops, r :: rs => toggleCalls t r ++ callsAfter t ops rs
  | .step :: ops, r :: rs =>
    toggleCalls t r ++ List.replicate t.delayCount.toNat .nop ++ callsAfter t ops rs
  | _, _ => []

namespace Blinker

variable {μ : Type} [RegisterBus μ]

theorem configure_blinking (k : Blinker) (m : μ) (hk : k.phase = .blinking) :
    k.configure m = (k, m) := by
  simp [configure, hk]

theorem configure_target (k : Blinker) (m : μ) : (k.configure m).1.target = k.target := by
  unfold configure
  split <;> rfl

theorem configure_configure (k : Blinker) (m : μ) :
    (k.configure m).1.configure (k.configure m).2 = k.configure m := by
  by_cases hk : k.phase = .uninitialized
  · have hb : (k.configure m).1.phase = .blinking := by simp [configure, hk]
    exact configure_blinking _ _ hb
  · have hid : k.configure m = (k, m) := by simp [configure, hk]
    rw [hid]
    exact hid

/-- A toggle is a configuration (which does nothing once it has run) followed by the flip. -/
theorem toggle_eq (k : Blinker) (m : μ) :
    k.toggle m = ((k.configure m).1, RegisterBus.toggleBits (k.configure m).2
      k.target.output.register k.target.output.mask) := by
  unfold toggle
  by_cases hb : k.phase = .blinking
  · simp [hb, configure_blinking k m hb]
  · simp only [ne_eq, hb, not_false_eq_true, if_true]
    rw [configure_target]

theorem toggle_configure (k : Blinker) (m : μ) :
    (k.configure m).1.toggle (k.configure m).2 = k.toggle m := by
  rw [toggle_eq, toggle_eq, configure_configure, configure_target]

theorem configure_uninitialized (k : Blinker) (x : Recorder μ) (hk : k.phase = .uninitialized) :
    (k.configure x).1 = { k with phase := .blinking } ∧
      ∃ r1 r2 r3, (k.configure x).2.log = x.log ++ configureCalls k.target r1 r2 r3 := by
  have hne : ¬ k.phase ≠ .uninitialized := by simp [hk]
  refine ⟨by simp only [configure, hne, if_false], ?_⟩
  simp only [configure, hne, if_false, RegisterBus.setBits_eq, RegisterBus.clearBits_eq,
    Recorder.write_log, Recorder.read_snd_log, Recorder.read_fst, Recorder.write_machine,
    Recorder.read_snd_machine, List.append_assoc, List.cons_append, List.nil_append]
  exact ⟨_, _, _, rfl⟩

theorem toggleBits_log (x : Recorder μ) (t : BlinkTarget) :
    ∃ r, (RegisterBus.toggleBits x t.output.register t.output.mask).log =
      x.log ++ toggleCalls t r := by
  simp only [RegisterBus.toggleBits_eq, Recorder.write_log, Recorder.read_snd_log,
    Recorder.read_fst, List.append_assoc, List.cons_append, List.nil_append]
  exact ⟨_, rfl⟩

variable [Spin μ]

def perform (k : Blinker) (m : μ) : BlinkOp → Blinker × μ
  | .configure => k.configure m
  | .toggle => k.toggle m
  | .step => k.step m

def exec (k : Blinker) (m : μ) : List BlinkOp → Blinker × μ
  | [] => (k, m)
  | op :: ops => (k.perform m op).1.exec (k.perform m op).2 ops

theorem step_eq (k : Blinker) (m : μ) :
    k.step m = ((k.toggle m).1, Spin.spin (k.toggle m).2 (k.toggle m).1.target.delayCount) := rfl

/-- Every entry point begins with the configuration: it does what it does after one. -/
theorem perform_configure (k : Blinker) (m : μ) (op : BlinkOp) :
    (k.configure m).1.perform (k.configure m).2 op = k.perform m op := by
  cases op with
  | configure => exact configure_configure k m
  | toggle => exact toggle_configure k m
  | step => rw [perform, perform, step_eq, step_eq, toggle_configure]

/-- One entry point on a configured blinker through a recorder: the blinker stays as it is, and
the log grows by the calls `callsAfter` gives the entry point, with one read value if it flips. -/
theorem perform_blinking (k : Blinker) (x : Recorder μ) (hk : k.phase = .blinking)
    (op : BlinkOp) :
    (k.perform x op).1 = k ∧ ∃ rs : List UInt32, rs.length = (if op.flips then 1 else 0) ∧
      ∀ ops rest, (k.perform x op).2.log ++ callsAfter k.target ops rest =
        x.log ++ callsAfter k.target (op :: ops) (rs ++ rest) := by
  cases op with
  | configure =>
    refine ⟨by simp [perform, configure_blinking k x hk], [], rfl, fun ops rest => ?_⟩
    simp [perform, configure_blinking k x hk, callsAfter]
  | toggle =>
    obtain ⟨r, hr⟩ := toggleBits_log x k.target
    refine ⟨by simp [perform, toggle_eq k x, configure_blinking k x hk], [r], rfl,
      fun ops rest => ?_⟩
    simp only [perform, toggle_eq k x, configure_blinking k x hk, hr, List.append_assoc,
      List.cons_append, List.nil_append, callsAfter]
  | step =>
    obtain ⟨r, hr⟩ := toggleBits_log x k.target
    refine ⟨by simp [perform, step_eq, toggle_eq k x, configure_blinking k x hk], [r], rfl,
      fun ops rest => ?_⟩
    simp only [perform, step_eq, toggle_eq k x, configure_blinking k x hk, Recorder.spin_eq,
      hr, List.append_assoc, List.cons_append, List.nil_append, callsAfter]

/-- A run on a configured blinker through a recorder: the blinker stays as it is, and the log
grows by the calls of `callsAfter`, with one read value for each toggle and step. The induction is
on the run, the recorder generalised; each entry point is `perform_blinking`. -/
theorem exec_blinking (k : Blinker) (x : Recorder μ) (hk : k.phase = .blinking)
    (ops : List BlinkOp) :
    (k.exec x ops).1 = k ∧ ∃ rs : List UInt32, rs.length = ops.countP (·.flips) ∧
      (k.exec x ops).2.log = x.log ++ callsAfter k.target ops rs := by
  induction ops generalizing x with
  | nil => exact ⟨rfl, [], rfl, by simp [exec, callsAfter]⟩
  | cons op ops ih =>
    obtain ⟨hk', rs1, hlen1, hlog1⟩ := perform_blinking k x hk op
    obtain ⟨hrun, rs2, hlen2, hlog2⟩ := ih (k.perform x op).2
    refine ⟨by rw [exec, hk', hrun], rs1 ++ rs2, ?_, ?_⟩
    · rw [List.length_append, hlen1, hlen2, List.countP_cons, Nat.add_comm]
    · rw [exec, hk', hlog2, hlog1]

/-- **The calls of the blink loop.** Every non-empty run of entry points from a fresh blinker, in
any order, over any machine, leaves the blinker `blinking` (it starts `uninitialized`), and the
machine sees exactly the configuration's three read-modify-writes, then a flip of the output bit
for each toggle and step, each step followed by its delay count of busy-wait iterations; every
written value is the value just read with the mask applied. -/
theorem exec_start_calls (t : BlinkTarget) (m : μ) (op : BlinkOp) (ops : List BlinkOp) :
    (start t).phase = .uninitialized ∧
      ((start t).exec (⟨m, []⟩ : Recorder μ) (op :: ops)).1.phase = .blinking ∧
      ∃ r1 r2 r3, ∃ rs : List UInt32, rs.length = (op :: ops).countP (·.flips) ∧
        ((start t).exec (⟨m, []⟩ : Recorder μ) (op :: ops)).2.log =
          configureCalls t r1 r2 r3 ++ callsAfter t (op :: ops) rs := by
  let x : Recorder μ := ⟨m, []⟩
  obtain ⟨hk1, r1, r2, r3, hlog1⟩ := configure_uninitialized (start t) x rfl
  -- the first entry point configures, so the run is the same run on a configured blinker
  have hexec : (start t).exec x (op :: ops) =
      ((start t).configure x).1.exec ((start t).configure x).2 (op :: ops) := by
    rw [exec, exec, perform_configure]
  obtain ⟨hrun, rs, hlen, hlog⟩ :=
    exec_blinking ((start t).configure x).1 ((start t).configure x).2 (by rw [hk1]) (op :: ops)
  refine ⟨rfl, ?_, r1, r2, r3, rs, hlen, ?_⟩
  · rw [hexec, hrun, hk1]
  · rw [hexec, hlog, hlog1, configure_target]
    rfl

end Blinker

end Heartbeat
