import Heartbeat.Bus.Basic
import Heartbeat.Json.Basic

/-!
# Bus snapshots

The state of a bus as a document: the board, the cycle counter, each window by name (a later
window of the same name replacing an earlier one) with its base, size, whether its clock is
enabled and its model's registers, and the fault log.

* `WindowSnapshot`, `BusSnapshot`, `Bus.snapshot`;
* `Fault.toJson`, `BusSnapshot.toJson` : the JSON forms, fields in document order.
-/

namespace Heartbeat

structure WindowSnapshot where
  base : UInt32
  size : UInt64
  clockEnabled : Bool
  registers : Json.Value
  deriving Repr

/-- A bus in a snapshot; windows in name order. -/
structure BusSnapshot where
  board : String
  cycle : UInt64
  peripherals : List (String × WindowSnapshot)
  faults : List Fault
  deriving Repr

/-- Puts an entry into a name-ordered table; a later entry of a name replaces the earlier. -/
def insertByName {α : Type} (name : String) (x : α) : List (String × α) → List (String × α)
  | [] => [(name, x)]
  | (n, y) :: rest =>
    if name < n then (name, x) :: (n, y) :: rest
    else if name = n then (name, x) :: rest
    else (n, y) :: insertByName name x rest

namespace Bus

variable {ω : Type}

/-- The snapshot of one window: an ungated window's clock is always enabled. -/
def windowSnapshot (b : Bus ω) (w : Window) : Except Overflow WindowSnapshot := do
  let clockEnabled ← match w.gate with
    | some g => b.gateOpen g
    | none => pure true
  pure ⟨w.base, w.size, clockEnabled, w.device.snapshot⟩

def snapshot (b : Bus ω) : Except Overflow BusSnapshot := do
  let shots ← b.windows.mapM fun w => do pure (w.name, ← b.windowSnapshot w)
  pure ⟨b.board, b.cycle, shots.foldl (fun t e => insertByName e.1 e.2 t) [], b.faults⟩

end Bus

open Json

/-- A fault as a document: its kind, then its fields. -/
def Fault.toJson : Fault → Value
  | .memoryViolation a => .obj [("kind", .str "memory_violation"), ("addr", .ofNat a.toNat)]
  | .unaligned a => .obj [("kind", .str "unaligned"), ("addr", .ofNat a.toNat)]
  | .clockDisabled p a v => .obj [("kind", .str "clock_disabled"), ("peripheral", .str p),
      ("addr", .ofNat a.toNat), ("value", .ofNat v.toNat)]

def WindowSnapshot.toJson (s : WindowSnapshot) : Value :=
  .obj [("base_address", .ofNat s.base.toNat), ("size", .ofNat s.size.toNat),
    ("clock_enabled", .bool s.clockEnabled), ("registers", s.registers)]

def BusSnapshot.toJson (s : BusSnapshot) : Value :=
  .obj [("board", .str s.board), ("cycle", .ofNat s.cycle.toNat),
    ("peripherals", .obj (s.peripherals.map fun (n, w) => (n, w.toJson))),
    ("faults", .arr (s.faults.map Fault.toJson))]

end Heartbeat
