import Heartbeat.Cli.Args
import Heartbeat.Cli.Help
import Heartbeat.Cli.Script
import Heartbeat.Profile.Builtin
import Heartbeat.Session.Encode
import Heartbeat.Waveform
import Heartbeat.Json.Read
import Heartbeat.Json.Write

/-!
# The commands

What each command does, as a script:

* `run` loads the board, simulates the configuration and the toggles, optionally writes a
  waveform (created before the run) and a snapshot (after it), prints the JSON report when
  asked, and exits `0` when the run passed and `1` when it did not;
* `registers` configures with no busy-wait, toggles, and prints the three LED registers and the
  LED pin;
* `boards` lists the built-in boards; `check` loads a board and builds its bus.

A board is a built-in name, or else the path of a profile file: JSON when its extension is
`json`, YAML otherwise. Exit codes: `2` for a bad command line, a board that does not load or a
bus that cannot be built, `3` for a waveform or snapshot file that cannot be created.

* `extension?`, `profileOfFile`, `resolve`;
* `runCommand`, `registersCommand`, `boardsCommand`, `checkCommand`, `program`.
-/

namespace Heartbeat.Cli

/-- The extension of a path's file name: what follows its last dot, unless that dot starts the
name. -/
def extension? (path : String) : Option String :=
  let parts := (path.splitOn "/").filter fun p => !p.isEmpty && p != "."
  match parts.getLast? with
  | none => none
  | some name =>
    if name = ".." then none
    else
      match (name.toList.reverse.findIdx? (· == '.')) with
      | none => none
      | some i =>
        let cut := name.length - 1 - i
        if cut = 0 then none else some (String.ofList (name.toList.drop (cut + 1)))

def quoted (path : String) : String := Json.quote path

/-- Reads a profile from a file's text, by the file's extension, and validates it. -/
def profileOfFile (path text : String) : Except LoadError Profile :=
  if extension? path = some "json" then
    Profile.checked (Profile.ofJsonText? text)
  else Profile.fromYaml text

/-- Whether a profile error stops the program outright rather than being reported. -/
def aborts : ProfileError → Bool
  | .badSize _ .splitInsideChar => true
  | .windowEndOverflow _ => true
  | _ => false

/-- A log record at a level, skipped when debug logging is off and the level is `debug`. -/
def logAt (trace : Bool) (level : Level) (message : String) (fields : List (String × String))
    (k : Script) : Script :=
  if level = .debug && !trace then k else .log level message fields k

/-- Loads a board by name or path, then goes on with its profile; exits `2` when it does not
load. -/
def resolve (trace : Bool) (name : String) (k : Profile → Script) : Script :=
  match Profile.builtin? name with
  | some p => logAt trace .debug s!"Using built-in board profile '{name}'" [] (k p)
  | none =>
    .load name fun
      | none =>
        .log .error s!"Failed to read board profile at {quoted name}: No such file or directory (os error 2)"
          [] (.exit 2)
      | some text =>
        match profileOfFile name text with
        | .ok p => k p
        | .error .parse =>
          .log .error (if extension? name = some "json" then
              s!"Failed to parse board profile JSON from {quoted name}"
            else "Failed to parse board profile YAML") [] (.exit 2)
        | .error (.invalid e) => if aborts e then .abort else .log .error e.message [] (.exit 2)

/-- The peripherals a bus maps before it fails at `failing`, or all of them. -/
def mappedBefore (p : Profile) (failing : Option String) : List PeripheralSpec :=
  match failing with
  | some id => p.peripherals.takeWhile (·.id != id)
  | none => p.peripherals

def mappedLogs : List PeripheralSpec → Script → Script
  | [], k => k
  | q :: qs, k =>
    let size := match q.windowSize with
      | .ok s => s.toNat
      | .error _ => 0
    .log .debug "Mapped peripheral" [("id", q.id), ("kind", q.kind), ("base", Text.hexWord q.base),
      ("size", toString size), ("gated", toString q.gate.isSome)] (mappedLogs qs k)

def busLogs (trace : Bool) (p : Profile) (failing : Option String) (k : Script) : Script :=
  let fallback := if p.peripherals.isEmpty && failing.isNone then
      Script.log .info s!"Profile '{p.name}' declares no peripherals; backing its LED registers with plain memory" [] k
    else k
  if trace then mappedLogs (mappedBefore p failing) fallback else fallback

/-- Builds a session on a profile's bus, then goes on; exits `2` when the bus cannot be built. -/
def withSession {ω : Type} (trace : Bool) (p : Profile) (c : SimConfig) (watch : ω)
    (k : Session ω → Script) : Script :=
  match Session.fromProfile p c watch with
  | .ok s => busLogs trace p none (k s)
  | .error e =>
    let failing := match e with
      | .build id _ => some id
      | .resetValue id _ => some id
      | .profile _ => none
    busLogs trace p failing (.log .error e.message [] (.exit 2))

def runLogs {ω : Type} (s : Session ω) (k : Script) : Script :=
  .log .info "Configuring LED pin" [("board", s.bus.board)]
    (Script.logAll .warn (s.bus.faults.map Fault.message) k)

def render : ValueFormat → UInt32 → String
  | .hex, v => Text.hexWord v
  | .dec, v => toString v.toNat
  | .bin, v => Text.binaryWord v

def report (s : Summary) : String :=
  (Json.Value.obj ([("schema_version", .str "1.0"),
    ("status", .str (if s.passed then "pass" else "fail"))] ++ s.fields)).compact

def failureLogs (pin : UInt8) (s : Summary) : List String :=
  (match s.ledPin with
    | some p => if p.output then [] else [s!"LED pin {pin} is not configured as an output"]
    | none => []) ++
  (if s.faults.isEmpty && !s.levels.any (· != s.initialLevel) then ["LED output never changed level"]
    else [])

/-- The Debug name of a stop reason. -/
def stopName : StopReason → String
  | .toggleLimit => "ToggleLimit"
  | .fault => "Fault"

/-- A waveform's text split where its buffered file stands at the end of the run: the blocks
already sent to the file, and what the buffer still holds. -/
def Waveform.flushed (w : Waveform) : String × String :=
  let ps := w.pieces
  let k := flushedPieces bufferCapacity (ps.map String.utf8ByteSize)
  (String.join (ps.take k), String.join (ps.drop k))

/-- After the run: the snapshot, the report, the exit code; what the waveform's buffer still
holds is written when the program ends. -/
def afterRun (o : RunOptions) (p : Profile) (s : Session (Option Waveform)) (sum : Summary) :
    Script :=
  let flush (k : Script) : Script :=
    match o.vcd, s.bus.watch with
    | some path, some w =>
      let (sent, held) := Waveform.flushed w
      .write path sent.utf8ByteSize held k
    | _, _ => k
  let finish : Script :=
    Script.logAll .error (sum.faults.map fun f => "Bus fault: " ++ f.message) <|
    .log .info s!"Finished: {sum.toggles.toNat} toggles, {sum.delayIterations.toNat} delay iterations, {sum.cycles.toNat} cycles ({stopName sum.stopReason})" [] <|
    (if o.json then .print (report sum) else id) <|
    if sum.passed then flush (.exit 0)
    else Script.logAll .error (failureLogs p.led.output.pin sum) (flush (.exit 1))
  match o.snapshot with
  | none => finish
  | some path =>
    .create path fun ok =>
      if ok then
        match s.bus.snapshot with
        | .ok shot => .write path 0 shot.toJson.pretty finish
        | .error _ => .abort
      else .log .error s!"Failed to write snapshot {quoted path}: Permission denied (os error 13)"
        [] (flush (.exit 3))

/-- The session with a waveform as its bus's observer, starting from the LED level and the
clock-enable state its registers show. -/
def withWaveform (s : Session (Option Waveform)) : Session (Option Waveform) :=
  let t := s.target
  let clockEn := match s.bus.peek t.clock.register.addr with
    | .ok (some v) => v &&& t.clock.mask == t.clock.mask
    | _ => false
  let led := match s.ledLevel with
    | .ok l => l
    | .error _ => false
  { s with rig := { s.rig with bus := { s.bus with watch := some (Waveform.start t led clockEn) } } }

def runCommand (trace : Bool) (o : RunOptions) : Script :=
  resolve trace o.board fun p =>
  let c : SimConfig := ⟨o.nopCycles, o.delay, !o.noClockGating, o.stopOnFault⟩
  withSession trace p c (none : Option Waveform) fun s =>
  let go (s : Session (Option Waveform)) : Script :=
    .log .info s!"Running board '{p.name}' ({p.chip}) for {o.toggles} toggles" [] <|
    let (sum, s) := s.run o.toggles
    runLogs s <|
    let sendBlocks (k : Script) : Script :=
      match o.vcd, s.bus.watch with
      | some path, some w => .write path 0 (Waveform.flushed w).1 k
      | _, _ => k
    sendBlocks <|
    if s.bus.halted.isSome then .abort else afterRun o p s sum
  match o.vcd with
  | none => go s
  | some path =>
    .create path fun ok =>
      if ok then .log .info s!"Writing VCD trace to {quoted path}" [] (go (withWaveform s))
      else .log .error s!"Failed to create VCD file {quoted path}: No such file or directory (os error 2)"
        [] (.exit 3)

def registersCommand (trace : Bool) (o : RegistersOptions) : Script :=
  resolve trace o.board fun p =>
  withSession trace p { SimConfig.default with delayOverride := some 0 } () fun s =>
  let (_, s) := s.run o.toggles
  runLogs s <|
  if s.bus.halted.isSome then .abort else
  let t := s.target
  let row (label : String) (r : Register) : String :=
    match s.bus.peek r.addr with
    | .ok (some v) => s!"{padRight label 8} {r.display}  {render o.format v}"
    | _ => s!"{padRight label 8} {r.display}  <unmapped>"
  let rows := [row "clock" t.clock.register, row "mode" t.mode.register,
    row "output" t.output.register]
  let pin := match s.ledPin with
    | .ok (some st) =>
      let label := padRight "pin" 8
      let direction := if st.output then "output" else "input"
      let level := if st.level then "high" else "low"
      [s!"{label} {padRight (toString t.output.pin.toNat) 10}  {direction} {level}"]
    | _ => []
  Script.printAll (rows ++ pin) (.exit 0)

def boardsCommand : Script :=
  Script.printAll (Profile.builtins.map fun (_, p) =>
    s!"{padRight p.name 14} {padRight p.chip 12} pin {padRight (toString p.led.output.pin.toNat) 2} @ {Text.hexWord p.led.output.register}")
    (.exit 0)

def checkCommand (trace : Bool) (board : String) : Script :=
  resolve trace board fun p =>
  match Bus.fromProfile p () with
  | .ok b =>
    busLogs trace p none <|
    .log .info s!"Board profile '{p.name}' is valid: {b.windows.length} peripherals, LED pin {p.led.output.pin.toNat} at {Text.hexWord p.led.output.register}"
      [] (.exit 0)
  | .error e =>
    let failing := match e with
      | .build id _ => some id
      | .resetValue id _ => some id
      | .profile _ => none
    busLogs trace p failing (.log .error e.message [] (.exit 2))

def program (args : List String) : Script :=
  match Invocation.parse args with
  | .refused => .exit 2
  | .help t => Script.printAll (helpText t) (.exit 0)
  | .version => .print versionLine (.exit 0)
  | .command trace (.run o) => runCommand trace o
  | .command trace (.registers o) => registersCommand trace o
  | .command _ .boards => boardsCommand
  | .command trace (.check b) => checkCommand trace b

end Heartbeat.Cli
