import Heartbeat.Bus.Observer
import Heartbeat.Device.Basic
import Heartbeat.Target

/-!
# The system bus

A bus maps windows of the 32-bit address space to peripheral models; the first window, in
mapping order, that holds an address serves it. Every access through the register interface
costs one cycle, is reported to the observers and, when it fails, records a fault and goes on:
a read that faults answers zero, a write that faults changes nothing.

A write faults, in this order of checks, when its address is not a multiple of four, when no
window holds it, when clock gating is on and the window's clock gate is not fully set (read
without an access from the window holding the gate register), and when the model refuses the
offset.

Two arithmetic overflows stop a bus outright: searching a window whose end does not fit in 64
bits, at or past its base; and ticking the cycle counter at its maximum. The queries answer
`Overflow` then; the register interface leaves the bus `halted` and does nothing more. A driver
counting busy-wait iterations on the bus's clock halts it the same way when its own counter
overflows.

* `Window`, `Overflow`, `Bus`;
* `Bus.peek`, `readWord`, `writeWord`, `pinState` : direct queries and writes, without a cycle;
* `Bus.read`, `Bus.write` : the register interface, with its cycle, report and fault log;
* `Bus.notifyDelay`, `clearFaults`, `reset`.
-/

namespace Heartbeat

/-- An arithmetic overflow that stops the simulator. -/
inductive Overflow where
  /-- The end of the named window does not fit in 64 bits. -/
  | windowEnd (name : String)
  /-- The cycle counter was at its maximum. -/
  | cycle
  /-- A busy-wait's iteration counter was at its maximum. -/
  | iterations
  deriving DecidableEq, Repr

structure Window where
  name : String
  base : UInt32
  size : UInt64
  gate : Option ClockGate
  /-- Values forced after every reset, by offset in increasing order. -/
  resetValues : List (UInt32 × UInt32)
  device : Device
  deriving DecidableEq, Repr

/-- Forces the values in order; the first the model refuses stops, with the values before it
applied. -/
def presetAll : Device → List (UInt32 × UInt32) → Device × Option Fault
  | d, [] => (d, none)
  | d, (off, v) :: rest =>
    match d.preset off v with
    | .ok d' => presetAll d' rest
    | .error f => (d, some f)

namespace Window

/-- Whether the window holds an address. Its end is only computed for an address at or past the
base, and overflows when it does not fit in 64 bits. -/
def holds? (w : Window) (addr : UInt32) : Except Overflow Bool :=
  if addr.toNat < w.base.toNat then .ok false
  else if w.base.toNat + w.size.toNat ≥ UInt64.size then .error (.windowEnd w.name)
  else .ok (addr.toNat < w.base.toNat + w.size.toNat)

/-- The window's model back at power-on, with its reset values forced. -/
def powerOn (w : Window) : Window × Option Fault :=
  let (d, f) := presetAll w.device.reset w.resetValues
  ({ w with device := d }, f)

end Window

/-- The first window holding an address, with its position. -/
def locate : List Window → UInt32 → Except Overflow (Option (Nat × Window))
  | [], _ => .ok none
  | w :: ws, addr => do
    if ← w.holds? addr then pure (some (0, w))
    else pure ((← locate ws addr).map fun (i, v) => (i + 1, v))

/-- A bus: its board name, windows, whether clock gating is on, the cycle counter, the fault log
(newest first), the observers' state, and the overflow that stopped it, if any. -/
structure Bus (ω : Type) where
  board : String
  windows : List Window
  gating : Bool
  cycle : UInt64
  faultLog : List Fault
  watch : ω
  halted : Option Overflow

namespace Bus

variable {ω : Type}

/-- An empty bus with clock gating on. -/
def empty (board : String) (watch : ω) : Bus ω :=
  ⟨board, [], true, 0, [], watch, none⟩

/-- The bus with a window mapped after the others. -/
def map (b : Bus ω) (w : Window) : Bus ω :=
  { b with windows := b.windows ++ [w] }

/-- The faults recorded, oldest first. -/
def faults (b : Bus ω) : List Fault := b.faultLog.reverse

/-- The value at an address, without a cycle or a report; `none` when no window holds it or the
model refuses the offset. -/
def peek (b : Bus ω) (addr : UInt32) : Except Overflow (Option UInt32) := do
  match ← locate b.windows addr with
  | none => pure none
  | some (_, w) =>
    match w.device.read (addr - w.base) with
    | .ok v => pure (some v)
    | .error _ => pure none

def gateOpen (b : Bus ω) (g : ClockGate) : Except Overflow Bool := do
  match ← b.peek g.register.addr with
  | some v => pure (v &&& g.mask == g.mask)
  | none => pure false

/-- Reads a word without a cycle, a report or a log entry. -/
def readWord (b : Bus ω) (addr : UInt32) : Except Overflow (Except Fault UInt32) :=
  if addr % 4 != 0 then pure (.error (.unaligned addr)) else do
  match ← locate b.windows addr with
  | none => pure (.error (.memoryViolation addr))
  | some (_, w) =>
    match w.device.read (addr - w.base) with
    | .ok v => pure (.ok v)
    | .error _ => pure (.error (.memoryViolation addr))

def blocked (b : Bus ω) (w : Window) : Except Overflow Bool :=
  if b.gating then
    match w.gate with
    | some g => do pure !(← b.gateOpen g)
    | none => pure false
  else pure false

/-- Writes a word without a cycle, a report or a log entry. -/
def writeWord (b : Bus ω) (addr v : UInt32) : Except Overflow (Except Fault (Bus ω)) :=
  if addr % 4 != 0 then pure (.error (.unaligned addr)) else do
  match ← locate b.windows addr with
  | none => pure (.error (.memoryViolation addr))
  | some (i, w) =>
    if ← b.blocked w then pure (.error (.clockDisabled w.name addr v))
    else
      match w.device.write (addr - w.base) v with
      | .ok d => pure (.ok { b with windows := b.windows.set i { w with device := d } })
      | .error _ => pure (.error (.memoryViolation addr))

def pinState (b : Bus ω) (addr : UInt32) (pin : UInt8) : Except Overflow (Option PinState) := do
  match ← locate b.windows addr with
  | none => pure none
  | some (_, w) => pure (w.device.pinState pin)

def nameAt (b : Bus ω) (addr : UInt32) : Except Overflow (Option String) := do
  pure ((← locate b.windows addr).map (·.2.name))

def tick (b : Bus ω) : Except Overflow UInt64 :=
  if b.cycle = 0xFFFFFFFFFFFFFFFF then .error .cycle else .ok (b.cycle + 1)

variable [Observer ω]

/-- Logs a fault, after reporting it. -/
def record (b : Bus ω) (f : Fault) : Bus ω :=
  { b with watch := Observer.onFault b.watch f, faultLog := f :: b.faultLog }

/-- A read through the register interface: one cycle, the report, and the fault if any; a
faulting read answers zero. -/
def readAt (b : Bus ω) (addr : UInt32) : Except Overflow (UInt32 × Bus ω) := do
  let cycle ← b.tick
  let r ← b.readWord addr
  let name ← b.nameAt addr
  let value := match r with
    | .ok v => v
    | .error _ => 0
  let seen := Observer.onAccess b.watch name ⟨.read, addr, value, cycle⟩
  let b := { b with cycle := cycle, watch := seen }
  match r with
  | .ok _ => pure (value, b)
  | .error f => pure (value, b.record f)

/-- A write through the register interface: one cycle, the report, and the fault if any. -/
def writeAt (b : Bus ω) (addr v : UInt32) : Except Overflow (Bus ω) := do
  let cycle ← b.tick
  let r ← b.writeWord addr v
  let name ← b.nameAt addr
  let after := match r with
    | .ok b' => b'
    | .error _ => b
  let seen := Observer.onAccess after.watch name ⟨.write, addr, v, cycle⟩
  let after := { after with cycle := cycle, watch := seen }
  match r with
  | .ok _ => pure after
  | .error f => pure (after.record f)

def halt (b : Bus ω) (e : Overflow) : Bus ω := { b with halted := some e }

/-- A read; a halted bus answers zero and stays as it is. -/
def read (b : Bus ω) (addr : UInt32) : UInt32 × Bus ω :=
  if b.halted.isSome then (0, b) else
  match b.readAt addr with
  | .ok r => r
  | .error e => (0, b.halt e)

/-- A write; a halted bus stays as it is. -/
def write (b : Bus ω) (addr v : UInt32) : Bus ω :=
  if b.halted.isSome then b else
  match b.writeAt addr v with
  | .ok b' => b'
  | .error e => b.halt e

instance : RegisterBus (Bus ω) where
  read b r := b.read r.addr
  write b r v := b.write r.addr v

def notifyDelay (b : Bus ω) (iterations : UInt64) : Bus ω :=
  { b with watch := Observer.onDelay b.watch iterations b.cycle }

def clearFaults (b : Bus ω) : Bus ω := { b with faultLog := [] }

/-- Power-on of the windows in order; the first reset value a model refuses stops it, leaving the
later windows as they were. -/
def powerOnAll : List Window → List Window × Option Fault
  | [] => ([], none)
  | w :: ws =>
    let (w', f) := w.powerOn
    match f with
    | some f => (w' :: ws, some f)
    | none =>
      let (ws', f') := powerOnAll ws
      (w' :: ws', f')

/-- Power-on reset of every model with its reset values; then, when all were accepted, an empty
fault log and the cycle counter at zero. The observers are not reset. -/
def reset (b : Bus ω) : Bus ω × Option Fault :=
  let (ws, f) := powerOnAll b.windows
  match f with
  | some f => ({ b with windows := ws }, some f)
  | none => ({ b with windows := ws, faultLog := [], cycle := 0 }, none)

/-- Runs a query that may overflow: its answer, or the default with the bus halted. -/
def probe {α : Type} (b : Bus ω) (q : Bus ω → Except Overflow α) (d : α) : α × Bus ω :=
  match q b with
  | .ok a => (a, b)
  | .error e => (d, b.halt e)

end Bus

end Heartbeat
