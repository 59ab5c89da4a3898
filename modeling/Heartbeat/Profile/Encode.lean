import Heartbeat.Profile.Basic
import Heartbeat.Json.Basic

/-!
# Profiles as JSON

The JSON form of a profile: every field by its document name, absent optional fields as null,
and reset values as an object keyed by the decimal offset.

* `Profile.toJson`.
-/

namespace Heartbeat

open Json

def optionalText : Option String → Value
  | some s => .str s
  | none => .null

def BitRef.toJson (b : BitRef) : Value :=
  .obj [("register", .ofNat b.register.toNat), ("bit", .ofNat b.bit.toNat)]

def LedSpec.toJson (l : LedSpec) : Value :=
  .obj [("clock", l.clock.toJson),
    ("mode", .obj [("register", .ofNat l.mode.register.toNat), ("offset", .ofNat l.mode.offset.toNat),
      ("width", .ofNat l.mode.width.toNat), ("value", .ofNat l.mode.value.toNat)]),
    ("output", .obj [("register", .ofNat l.output.register.toNat),
      ("pin", .ofNat l.output.pin.toNat)])]

def PeripheralSpec.toJson (p : PeripheralSpec) : Value :=
  .obj [("id", .str p.id), ("type", .str p.kind), ("layout", optionalText p.layout),
    ("base_address", .ofNat p.base.toNat), ("size", optionalText p.size),
    ("reset_values", .obj (p.resetValues.entries.map fun (k, v) => (toString k.toNat, .ofNat v.toNat))),
    ("clock_gate", match p.gate with
      | some g => g.toJson
      | none => .null)]

def Profile.toJson (p : Profile) : Value :=
  .obj [("schema_version", .str p.schemaVersion), ("name", .str p.name), ("chip", .str p.chip),
    ("description", optionalText p.description),
    ("peripherals", .arr (p.peripherals.map PeripheralSpec.toJson)),
    ("led", p.led.toJson), ("delay_count", .ofNat p.delayCount.toNat)]

end Heartbeat
