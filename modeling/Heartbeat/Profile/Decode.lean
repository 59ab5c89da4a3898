import Heartbeat.Profile.Validate
import Heartbeat.Json.Read
import Heartbeat.Yaml.Read

/-!
# Decoding a profile from a document

A profile is read from a YAML document or a JSON text by one set of rules, written once over a
`Source` class that the trees provide:

* a record comes from a mapping of field names (a field given twice is refused; unknown fields
  are ignored, except in the LED records, which refuse them), and from JSON also from an array
  of its fields in order, where missing trailing fields take their defaults;
* an integer must be written as one and fit its type: a plain YAML scalar in decimal (no
  leading zero) or with a `0x`, `0o`, `0b` prefix, whatever its tag (a literal block scalar
  tagged `!!int` is read the same way; any other style is refused), or a non-negative JSON
  integer;
* a string is any YAML scalar, or a JSON string; a truth value is a plain YAML `true` or
  `false` (also capitalised or in capitals), or a JSON boolean;
* an optional field is absent when it is null (an untagged plain YAML `~`, `null`, `Null`,
  `NULL` or nothing, or a plain `!!null` scalar, which must spell null);
* in YAML, an empty plain scalar is also an empty list, mapping or record, and an alias is read
  as the node its anchor's number names once the document is read (`Yaml.Ref`);
* reset value offsets are mapping keys spelling integers (in JSON, the exact text of one, as
  written between its quotes);
* a JSON string is decoded only when it is read: a value that is skipped, and the key of a
  member that is skipped inside it, may hold any escape.

Decoding runs in `Decode`, which counts the aliases followed: every value is entered once, by
`Source.enter`, where an alias is followed. A YAML document whose decoding follows more aliases
than `Yaml.Document.aliasLimit` allows is refused, whatever it decodes to.

* `Source`, `Fields`, `Decode` : the interface, the two ways a record is given, the decoding
  steps;
* `Profile.ofYaml?`, `Profile.ofJson?`, `Profile.ofJsonText?` : decoding alone;
* `LoadError`, `Profile.checked`, `Profile.fromYaml`, `Profile.fromJson` : decoding, then
  validation.
-/

namespace Heartbeat

/-- How the fields of a record are given: by name, or by position. -/
inductive Fields (α : Type) where
  | named (entries : List (String × α))
  | positional (items : List α)

/-- A document tree a profile can be decoded from. -/
class Source (α : Type) where
  /-- The value an alias stands for, and the number of aliases followed to it; any other value
  as it is, with none. -/
  follow : α → α × Nat
  /-- The text of a string. -/
  text? : α → Option String
  /-- The unsigned integer a value is. -/
  unsigned? : α → Option Nat
  /-- The unsigned integer a mapping key spells. -/
  keyUnsigned? : α → Option Nat
  /-- The truth value a value is. -/
  flag? : α → Option Bool
  /-- Whether an optional value is absent; `none` when it is refused either way. -/
  absent? : α → Option Bool
  /-- The items of a list. -/
  items? : α → Option (List α)
  /-- The entries of a mapping, keys and values. -/
  entries? : α → Option (List (α × α))
  /-- The fields of a record given in order, where the format allows it. -/
  ordered? : α → Option (List α)

/-- A decoding step: it fails, or gives its value and adds the aliases it followed to a count. -/
abbrev Decode (β : Type) := StateT Nat Option β

namespace Decode

variable {β : Type}

def need (o : Option β) : Decode β := fun n => o.map (·, n)

/-- Runs a step from a count of none: its value and the aliases it followed. -/
def counted (d : Decode β) : Option (β × Nat) := d 0

end Decode

open Decode

namespace Fields

variable {α : Type}

/-- The value given for the field `name`, which is at `index` in the order of fields: the
inner `none` when it is not given, the outer one when it is given twice. -/
def get (fs : Fields α) (index : Nat) (name : String) : Option (Option α) :=
  match fs with
  | .named es =>
    match es.filter (·.1 == name) with
    | [] => some none
    | [(_, v)] => some (some v)
    | _ => none
  | .positional xs => some xs[index]?

/-- Whether no field is given that the record does not have: an unknown name counts only when
the record is closed, a position always. -/
def fits (fs : Fields α) (names : List String) (closed : Bool) : Bool :=
  match fs with
  | .named es => !closed || es.all (names.contains ·.1)
  | .positional xs => xs.length ≤ names.length

def required {β : Type} (fs : Fields α) (index : Nat) (name : String) (f : α → Decode β) :
    Decode β := do
  match ← need (fs.get index name) with
  | some v => f v
  | none => need none

def withDefault {β : Type} (fs : Fields α) (index : Nat) (name : String) (d : β)
    (f : α → Decode β) : Decode β := do
  match ← need (fs.get index name) with
  | some v => f v
  | none => pure d

end Fields

/-- The truth value a YAML scalar spells: `true` or `false`, also capitalised or in capitals. -/
def Yaml.flagText? (t : String) : Option Bool :=
  if t = "true" || t = "True" || t = "TRUE" then some true
  else if t = "false" || t = "False" || t = "FALSE" then some false else none

/-- A YAML node's view as a tree of values. An alias is followed once it is entered; every other
reading looks at the node itself. -/
instance : Source Yaml.Ref where
  follow := Yaml.Ref.follow
  text? r := match r.node with
    | .scalar t _ _ => some t
    | _ => none
  unsigned? r := r.node.unsigned?
  keyUnsigned? r := r.node.unsigned?
  flag? r := match r.node with
    | .scalar t .plain _ => Yaml.flagText? t
    | _ => none
  absent? r := r.node.absent?
  items? r := match r.node with
    | .seq xs => some (xs.map r.at)
    | n => if n.isEmptyPlain then some [] else none
  entries? r := match r.node with
    | .map es => some (es.map fun (k, v) => (r.at k, r.at v))
    | n => if n.isEmptyPlain then some [] else none
  ordered? _ := none

/-- The integer a JSON object key spells: the exact text of a non-negative JSON integer below
`2 ^ 64`. -/
def Json.integerKey? (k : String) : Option Nat :=
  let n? := match k.toList with
    | ['0'] => some 0
    | c :: cs =>
      if c != '0' && (c :: cs).all Char.isDigit then
        some ((c :: cs).foldl (fun (n : Nat) (d : Char) => n * 10 + (d.toNat - '0'.toNat)) 0)
      else none
    | [] => none
  n?.bind fun n => if n < UInt64.size then some n else none

instance : Source Json.Value where
  follow v := (v, 0)
  text? := Json.Value.asString?
  unsigned? := Json.Value.asU64?
  keyUnsigned? v := match v with
    | .str k => Json.integerKey? k
    | _ => none
  flag? := Json.Value.asBool?
  absent? v := some v.isNull
  items? := Json.Value.asArray?
  entries? v := match v with
    | .obj ms => some (ms.map fun (k, x) => (.str k, x))
    | _ => none
  ordered? := Json.Value.asArray?

/-- A JSON text as read: a string is decoded when it is read as one, and a key that spells an
integer is read from its text as written. -/
instance : Source Json.Doc where
  follow v := (v, 0)
  text? v := match v with
    | .str raw => Json.unescape? raw
    | _ => none
  unsigned? v := match v with
    | .num (.nat n) => some n
    | _ => none
  keyUnsigned? v := match v with
    | .str raw => Json.integerKey? raw
    | _ => none
  flag? v := match v with
    | .bool b => some b
    | _ => none
  absent? v := match v with
    | .null => some true
    | _ => some false
  items? v := match v with
    | .arr xs => some xs
    | _ => none
  entries? v := match v with
    | .obj ms => some (ms.map fun (k, x) => (.str k, x))
    | _ => none
  ordered? v := match v with
    | .arr xs => some xs
    | _ => none

namespace Source

variable {α : Type} [Source α]

/-- Enters a value: an alias is followed to the value it stands for, and counted. -/
def enter (v : α) : Decode α := fun n =>
  let (w, k) := follow v
  some (w, n + k)

def text (v : α) : Decode String := do
  need (text? (← enter v))

def flag (v : α) : Decode Bool := do
  need (flag? (← enter v))

def u32 (v : α) : Decode UInt32 := do
  let n ← need (unsigned? (← enter v))
  need (if n < UInt32.size then some n.toUInt32 else none)

def u8 (v : α) : Decode UInt8 := do
  let n ← need (unsigned? (← enter v))
  need (if n < UInt8.size then some n.toUInt8 else none)

/-- An optional value: null is absent. The value is entered once, here; `f` reads what it
stands for. -/
def optional {β : Type} (f : α → Decode β) (v : α) : Decode (Option β) := do
  let w ← enter v
  match ← need (absent? w) with
  | true => pure none
  | false => some <$> f w

def list {β : Type} (f : α → Decode β) (v : α) : Decode (List β) := do
  let xs ← need (items? (← enter v))
  xs.mapM f

/-- The fields of a record: the entries of a mapping, each key read as a string, or the values
given in order. -/
def fields (v : α) : Decode (Fields α) := do
  let w ← enter v
  match entries? w with
  | some es => (es.mapM fun (e : α × α) => do pure (← text e.1, e.2)).map .named
  | none => (need (ordered? w)).map .positional

/-- A record, after checking that it has no field it does not know. -/
def record {β : Type} (names : List String) (closed : Bool) (f : Fields α → Decode β) (v : α) :
    Decode β := do
  let fs ← fields v
  if fs.fits names closed then f fs else need none

def bitRef : α → Decode BitRef :=
  record ["register", "bit"] true fun fs => do
    let register ← fs.required 0 "register" u32
    let bit ← fs.required 1 "bit" u8
    pure ⟨register, bit⟩

def modeSpec : α → Decode ModeSpec :=
  record ["register", "offset", "width", "value"] true fun fs => do
    let register ← fs.required 0 "register" u32
    let offset ← fs.required 1 "offset" u8
    let width ← fs.required 2 "width" u8
    let value ← fs.required 3 "value" u32
    pure ⟨register, offset, width, value⟩

def outputSpec : α → Decode OutputSpec :=
  record ["register", "pin"] true fun fs => do
    let register ← fs.required 0 "register" u32
    let pin ← fs.required 1 "pin" u8
    pure ⟨register, pin⟩

def ledSpec : α → Decode LedSpec :=
  record ["clock", "mode", "output"] true fun fs => do
    let clock ← fs.required 0 "clock" bitRef
    let mode ← fs.required 1 "mode" modeSpec
    let output ← fs.required 2 "output" outputSpec
    pure ⟨clock, mode, output⟩

/-- A reset value offset: a mapping key spelling an integer below `2 ^ 32`. -/
def offsetKey (k : α) : Decode UInt32 := do
  let n ← need (keyUnsigned? (← enter k))
  need (if n < UInt32.size then some n.toUInt32 else none)

def resetValues (v : α) : Decode ResetTable := do
  let es ← need (entries? (← enter v))
  let pairs ← es.mapM fun (e : α × α) => do
    let off ← offsetKey e.1
    let val ← u32 e.2
    pure (off, val)
  pure (resetTable pairs)

def peripheralSpec : α → Decode PeripheralSpec :=
  record ["id", "type", "layout", "base_address", "size", "reset_values", "clock_gate"] false
    fun fs => do
      let id ← fs.required 0 "id" text
      let kind ← fs.required 1 "type" text
      let layout ← fs.withDefault 2 "layout" none (optional text)
      let base ← fs.required 3 "base_address" u32
      let size ← fs.withDefault 4 "size" none (optional text)
      let resetValues ← fs.withDefault 5 "reset_values" (resetTable []) resetValues
      let gate ← fs.withDefault 6 "clock_gate" none (optional bitRef)
      pure { id, kind, layout, base, size, resetValues, gate }

def profile : α → Decode Profile :=
  record ["schema_version", "name", "chip", "description", "peripherals", "led", "delay_count"]
    false fun fs => do
      let schemaVersion ← fs.withDefault 0 "schema_version" supportedSchema text
      let name ← fs.required 1 "name" text
      let chip ← fs.required 2 "chip" text
      let description ← fs.withDefault 3 "description" none (optional text)
      let peripherals ← fs.withDefault 4 "peripherals" [] (list peripheralSpec)
      let led ← fs.required 5 "led" ledSpec
      let delayCount ← fs.withDefault 6 "delay_count" defaultDelayCount u32
      pure { schemaVersion, name, chip, description, peripherals, led, delayCount }

end Source

/-- Why a profile does not load: its document does not decode, or it fails validation. -/
inductive LoadError where
  | parse
  | invalid (e : ProfileError)
  deriving DecidableEq, Repr

namespace Profile

/-- Decodes a profile from a YAML document, within the document's limit of aliases followed. -/
def ofDocument? (d : Yaml.Document) : Option Profile :=
  (Source.profile (Yaml.Ref.mk d.anchored d.root)).counted.bind fun (p, jumps) =>
    if jumps ≤ d.aliasLimit then some p else none

def ofYaml? (text : String) : Option Profile :=
  (Yaml.readDocument? text).bind ofDocument?

def ofJson? (v : Json.Value) : Option Profile :=
  (Source.profile v).counted.map (·.1)

/-- Decodes a profile from JSON text, reading only the strings it uses. -/
def ofJsonText? (text : String) : Option Profile :=
  (Json.readDoc? text).bind fun d => (Source.profile d).counted.map (·.1)

def checked (p? : Option Profile) : Except LoadError Profile :=
  match p? with
  | none => .error .parse
  | some p =>
    match p.validate with
    | .ok () => .ok p
    | .error e => .error (.invalid e)

def fromYaml (text : String) : Except LoadError Profile :=
  checked (ofYaml? text)

def fromJson (v : Json.Value) : Except LoadError Profile :=
  checked (ofJson? v)

end Profile

end Heartbeat
