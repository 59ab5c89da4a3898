import Heartbeat.Fault

/-!
# Watching a bus

Every access a bus serves is reported to its observers, with the name of the window it falls
in; so is every fault it records and every busy-wait a driver reports. An observer is a state
updated by these three events, so whatever it computes is a fold over the bus's history.

* `AccessKind`, `Access`;
* `Observer` : the class of observer states, with instances for `Unit` and for pairs;
* `Trace` : the accesses of the kinds it admits, in order;
* `Metrics` : counts of reads, writes, faults and busy-wait iterations, and of reads and writes
  per window name.
-/

namespace Heartbeat

inductive AccessKind where
  | read
  | write
  deriving DecidableEq, Repr

structure Access where
  kind : AccessKind
  address : UInt32
  value : UInt32
  cycle : UInt64
  deriving DecidableEq, Repr

/-- A state that follows a bus's accesses, faults and busy-waits. -/
class Observer (ω : Type) where
  /-- An access, with the name of the first window holding its address. -/
  onAccess : ω → Option String → Access → ω
  /-- A fault, as it is recorded. -/
  onFault : ω → Fault → ω
  /-- A busy-wait of some iterations, ending at a cycle. -/
  onDelay : ω → UInt64 → UInt64 → ω

instance : Observer Unit where
  onAccess u _ _ := u
  onFault u _ := u
  onDelay u _ _ := u

instance {α β : Type} [Observer α] [Observer β] : Observer (α × β) where
  onAccess s n a := (Observer.onAccess s.1 n a, Observer.onAccess s.2 n a)
  onFault s f := (Observer.onFault s.1 f, Observer.onFault s.2 f)
  onDelay s i c := (Observer.onDelay s.1 i c, Observer.onDelay s.2 i c)

structure AccessFilter where
  reads : Bool
  writes : Bool
  deriving DecidableEq, Repr

def AccessFilter.admits (f : AccessFilter) : AccessKind → Bool
  | .read => f.reads
  | .write => f.writes

/-- The accesses of the admitted kinds, newest first. -/
structure Trace where
  filter : AccessFilter
  seen : List Access
  deriving Repr

namespace Trace

def empty (filter : AccessFilter) : Trace := ⟨filter, []⟩

/-- The accesses kept, in the order they happened. -/
def accesses (t : Trace) : List Access := t.seen.reverse

def clear (t : Trace) : Trace := { t with seen := [] }

instance : Observer Trace where
  onAccess t _ a := if t.filter.admits a.kind then { t with seen := a :: t.seen } else t
  onFault t _ := t
  onDelay t _ _ := t

end Trace

structure Counts where
  reads : UInt64
  writes : UInt64
  deriving DecidableEq, Repr

structure Metrics where
  reads : UInt64
  writes : UInt64
  faults : UInt64
  delayIterations : UInt64
  /-- Counts per window name, in name order. -/
  byPeripheral : List (String × Counts)
  deriving Repr

namespace Metrics

def empty : Metrics := ⟨0, 0, 0, 0, []⟩

/-- Counts one access of a kind for a name in a name-ordered table. -/
def bump (kind : AccessKind) (name : String) : List (String × Counts) → List (String × Counts)
  | [] => [(name, if kind = .read then ⟨1, 0⟩ else ⟨0, 1⟩)]
  | (n, c) :: rest =>
    if name < n then (name, if kind = .read then ⟨1, 0⟩ else ⟨0, 1⟩) :: (n, c) :: rest
    else if name = n then
      (n, if kind = .read then { c with reads := c.reads + 1 } else { c with writes := c.writes + 1 })
        :: rest
    else (n, c) :: bump kind name rest

instance : Observer Metrics where
  onAccess m name a :=
    let m := if a.kind = .read then { m with reads := m.reads + 1 }
      else { m with writes := m.writes + 1 }
    match name with
    | some n => { m with byPeripheral := bump a.kind n m.byPeripheral }
    | none => m
  onFault m _ := { m with faults := m.faults + 1 }
  onDelay m i _ := { m with delayIterations := m.delayIterations + i }

end Metrics

end Heartbeat
