import Heartbeat.Cli.Args

/-!
# Help texts

The help of the program and of each command: what it does, its usage line, and a table of its
arguments whose descriptions start in one column, two places past the widest option. Options
are listed by their order of declaration, options declared first at each level sharing a place
(and then ordered by name), help last.

* `helpText`, `versionLine`.
-/

namespace Heartbeat.Cli

def versionLine : String := "heartbeat-cli 0.13.0"

structure Row where
  short : Option Char
  long : String
  value : Option String
  about : String

/-- The option as the table writes it, from the long name on. -/
def Row.spec (r : Row) : String :=
  "--" ++ r.long ++ (match r.value with
    | some v => " <" ++ v ++ ">"
    | none => "")

def padRight (s : String) (width : Nat) : String :=
  s ++ String.ofList (List.replicate (width - s.length) ' ')

def optionLines (rows : List Row) : List String :=
  let width := rows.foldl (fun w r => max w (r.spec.length + 4)) 2
  rows.map fun r =>
    let lead := match r.short with
      | some c => "-" ++ String.singleton c ++ ", "
      | none => "    "
    "  " ++ padRight (lead ++ r.spec) (width + 2) ++ r.about

/-- The global debug-logging flag, listed by every command. -/
def traceRow : Row :=
  ⟨some 't', "trace", none, "Enable debug logging (peripheral mapping, configuration steps)"⟩

/-- The help flag, listed last. -/
def helpRow : Row := ⟨some 'h', "help", none, "Print help"⟩

def boardRow : Row :=
  ⟨some 'b', "board", some "BOARD", "Built-in board name or path to a board profile (YAML/JSON)"⟩

def commandRows : List (String × String) :=
  [("run", "Simulate configuration and a bounded number of LED toggles"),
    ("registers", "Configure (and optionally toggle), then print the LED registers"),
    ("boards", "List the built-in boards"), ("check", "Load and validate a board profile"),
    ("help", "Print this message or the help of the given subcommand(s)")]

/-- A command's help: description, usage, options. -/
def commandHelp (about usage : String) (rows : List Row) : List String :=
  [about, "", "Usage: heartbeat " ++ usage, "", "Options:"] ++ optionLines rows

def helpText : Topic → List String
  | .main =>
    ["Heartbeat LED firmware: board profiles and register-level simulation", "",
      "Usage: heartbeat [OPTIONS] <COMMAND>", "", "Commands:"] ++
    commandRows.map (fun (n, a) => "  " ++ padRight n 11 ++ a) ++
    ["", "Options:"] ++
    optionLines [traceRow, helpRow, ⟨some 'V', "version", none, "Print version"⟩]
  | .run =>
    commandHelp "Simulate configuration and a bounded number of LED toggles"
      "run [OPTIONS] --board <BOARD>"
      [boardRow, traceRow,
        ⟨none, "toggles", some "TOGGLES", "Number of LED toggles to simulate [default: 4]"⟩,
        ⟨none, "delay", some "DELAY",
          "Busy-wait iterations between toggles (default: the board's delay)"⟩,
        ⟨none, "nop-cycles", some "NOP_CYCLES",
          "Simulated cycles per busy-wait iteration [default: 1]"⟩,
        ⟨none, "no-clock-gating", none, "Allow writes to peripherals whose clock is disabled"⟩,
        ⟨none, "stop-on-fault", none, "Stop at the first bus fault"⟩,
        ⟨none, "json", none, "Print the run summary as a JSON line"⟩,
        ⟨none, "vcd", some "VCD", "Write the LED waveform to a VCD file"⟩,
        ⟨none, "snapshot", some "SNAPSHOT", "Write a register snapshot (JSON) after the run"⟩,
        helpRow]
  | .registers =>
    commandHelp "Configure (and optionally toggle), then print the LED registers"
      "registers [OPTIONS] --board <BOARD>"
      [boardRow, traceRow,
        ⟨none, "toggles", some "TOGGLES", "LED toggles to perform after configuration [default: 0]"⟩,
        ⟨none, "format", some "FORMAT",
          "Value format [default: hex] [possible values: hex, dec, bin]"⟩,
        helpRow]
  | .boards => commandHelp "List the built-in boards" "boards [OPTIONS]" [traceRow, helpRow]
  | .check =>
    commandHelp "Load and validate a board profile" "check [OPTIONS] --board <BOARD>"
      [boardRow, traceRow, helpRow]
  | .help =>
    ["Print this message or the help of the given subcommand(s)", "",
      "Usage: heartbeat help [COMMAND]...", "", "Arguments:",
      "  [COMMAND]...  Print help for the subcommand(s)"]

end Heartbeat.Cli
