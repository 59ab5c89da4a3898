import Heartbeat.Session.Basic
import Heartbeat.Bus.Snapshot

/-!
# Run summaries as JSON

The JSON form of a run summary, fields in document order: board, toggles, delay iterations,
cycles, initial level, levels, faults, why the run stopped, and the LED pin.

* `StopReason.name`, `PinState.toJson`, `Summary.fields`.
-/

namespace Heartbeat

open Json

def StopReason.name : StopReason → String
  | .toggleLimit => "toggle_limit"
  | .fault => "fault"

def PinState.toJson : Option PinState → Value
  | some p => .obj [("output", .bool p.output), ("level", .bool p.level)]
  | none => .null

/-- The fields of a summary, in document order. -/
def Summary.fields (s : Summary) : List (String × Value) :=
  [("board", .str s.board), ("toggles", .ofNat s.toggles.toNat),
    ("delay_iterations", .ofNat s.delayIterations.toNat), ("cycles", .ofNat s.cycles.toNat),
    ("initial_level", .bool s.initialLevel), ("levels", .arr (s.levels.map .bool)),
    ("faults", .arr (s.faults.map Fault.toJson)), ("stop_reason", .str s.stopReason.name),
    ("led_pin", PinState.toJson s.ledPin)]

end Heartbeat
