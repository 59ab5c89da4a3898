/-!
# The command line

The grammar of `heartbeat [-t] <COMMAND> [OPTIONS]`:

* `run -b BOARD [--toggles N] [--delay N] [--nop-cycles N] [--no-clock-gating]
  [--stop-on-fault] [--json] [--vcd PATH] [--snapshot PATH]`;
* `registers -b BOARD [--toggles N] [--format hex|dec|bin]`;
* `boards`; `check -b BOARD`; `help [COMMAND]`.

Arguments are read left to right. An option's value follows it (`--board x`), or is attached
(`--board=x`, `-bx`, `-b=x`); a following argument that starts with `-` (other than `-` alone)
is never a value. Flags may be clustered (`-tb x`). `-t`/`--trace` is accepted once before and
once after the command name. An option given twice, an unknown argument, a value that does not parse, or a
missing `--board` refuses the line. `-h`/`--help` and, before the command name, `-V`/`--version`
take effect as soon as they are read; `help` shows the help of the commands named after it.

Numbers are read as the standard integer parsers do: an optional `+`, then decimal digits;
the 32-bit options also take an optional `-` (so `-0` is zero) and must land in range.

* `ValueFormat`, `RunOptions`, `RegistersOptions`, `Command`, `Topic`, `Invocation`;
* `Invocation.parse`.
-/

namespace Heartbeat.Cli

/-- How the `registers` table writes values. -/
inductive ValueFormat where
  | hex
  | dec
  | bin
  deriving DecidableEq, Repr

structure RunOptions where
  board : String
  toggles : Nat
  delay : Option UInt32
  nopCycles : UInt32
  noClockGating : Bool
  stopOnFault : Bool
  json : Bool
  vcd : Option String
  snapshot : Option String
  deriving DecidableEq, Repr

structure RegistersOptions where
  board : String
  toggles : Nat
  format : ValueFormat
  deriving DecidableEq, Repr

inductive Command where
  | run (o : RunOptions)
  | registers (o : RegistersOptions)
  | boards
  | check (board : String)
  deriving DecidableEq, Repr

inductive Topic where
  | main
  | run
  | registers
  | boards
  | check
  | help
  deriving DecidableEq, Repr

inductive Invocation where
  /-- A command, with whether debug logging is on. -/
  | command (trace : Bool) (c : Command)
  /-- A help text. -/
  | help (topic : Topic)
  /-- The version line. -/
  | version
  /-- A line the grammar refuses. -/
  | refused
  deriving DecidableEq, Repr

/-- The decimal digits of an unsigned number, after an optional `+`. -/
def readUnsigned? (s : String) : Option Nat :=
  let ds := match s.toList with
    | '+' :: rest => rest
    | cs => cs
  if !ds.isEmpty && ds.all Char.isDigit then
    some (ds.foldl (fun n d => 10 * n + (d.toNat - '0'.toNat)) 0)
  else none

def readU64? (s : String) : Option Nat :=
  (readUnsigned? s).bind fun n => if n < UInt64.size then some n else none

/-- A 32-bit count, read as a signed 64-bit integer and then bounded. -/
def readU32? (s : String) : Option UInt32 :=
  match s.toList with
  | '-' :: rest =>
    match readUnsigned? (String.ofList rest) with
    | some 0 => if rest.head? = some '+' then none else some 0
    | _ => none
  | _ => (readUnsigned? s).bind fun n => if n < UInt32.size then some n.toUInt32 else none

def readFormat? (s : String) : Option ValueFormat :=
  if s = "hex" then some .hex else if s = "dec" then some .dec
  else if s = "bin" then some .bin else none

/-- One option of a command: its long name, its short letter, and, for an option that takes a
value, which values it accepts. -/
structure OptSpec where
  long : String
  short : Option Char
  value : Option (String → Bool)

def specs : Topic → List OptSpec
  | .run =>
    [⟨"board", some 'b', some fun _ => true⟩, ⟨"toggles", none, some fun s => (readU64? s).isSome⟩,
      ⟨"delay", none, some fun s => (readU32? s).isSome⟩,
      ⟨"nop-cycles", none, some fun s => (readU32? s).isSome⟩,
      ⟨"no-clock-gating", none, none⟩, ⟨"stop-on-fault", none, none⟩, ⟨"json", none, none⟩,
      ⟨"vcd", none, some fun s => !s.isEmpty⟩, ⟨"snapshot", none, some fun s => !s.isEmpty⟩]
  | .registers =>
    [⟨"board", some 'b', some fun _ => true⟩, ⟨"toggles", none, some fun s => (readU64? s).isSome⟩,
      ⟨"format", none, some fun s => (readFormat? s).isSome⟩]
  | .check => [⟨"board", some 'b', some fun _ => true⟩]
  | _ => []

inductive Scan where
  | given (values : List (String × String)) (trace : Bool)
  | help
  | refused

def looksLikeOption (s : String) : Bool :=
  s.startsWith "-" && s != "-"

/-- The long name and attached value of `--name` or `--name=value`. -/
def splitLong (body : String) : String × Option String :=
  match body.toList.findIdx? (· == '=') with
  | some i => (String.ofList (body.toList.take i), some (String.ofList (body.toList.drop (i + 1))))
  | none => (body, none)

/-- Records a value for an option: refused when it was given before or the value is not one
the option takes. -/
def record (spec : OptSpec) (v : String) (acc : List (String × String)) :
    Option (List (String × String)) :=
  if acc.any (·.1 == spec.long) then none
  else match spec.value with
    | some ok => if ok v then some ((spec.long, v) :: acc) else none
    | none => some ((spec.long, v) :: acc)

/-- Where reading a cluster of short options leaves off: stopped with an answer, or going on
with the values so far, the trace flag, and perhaps an option waiting for the next argument as
its value. -/
inductive ClusterEnd where
  | stop (s : Scan)
  | going (acc : List (String × String)) (trace : Bool) (waiting : Option OptSpec)

def cluster (opts : List OptSpec) (trace : Bool) (acc : List (String × String)) :
    List Char → ClusterEnd
  | [] => .going acc trace none
  | c :: cs =>
    if c = 'h' then .stop .help
    else if c = 't' then (if trace then .stop .refused else cluster opts true acc cs)
    else match opts.find? (·.short == some c) with
      | none => .stop .refused
      | some spec =>
        match spec.value with
        | none =>
          match record spec "" acc with
          | some acc => cluster opts trace acc cs
          | none => .stop .refused
        | some _ =>
          let attached := match cs with
            | '=' :: v => some (String.ofList v)
            | [] => none
            | v => some (String.ofList v)
          match attached with
          | some v =>
            match record spec v acc with
            | some acc => .going acc trace none
            | none => .stop .refused
          | none => .going acc trace (some spec)

def scan (opts : List OptSpec) (trace : Bool) (acc : List (String × String)) :
    List String → Scan
  | [] => .given acc trace
  | tok :: rest =>
    let takeNext (spec : OptSpec) (acc : List (String × String)) (trace : Bool) : Scan :=
      match rest with
      | v :: rest' =>
        if looksLikeOption v then .refused
        else match record spec v acc with
          | some acc => scan opts trace acc rest'
          | none => .refused
      | [] => .refused
    if tok = "--" then (if rest.isEmpty then .given acc trace else .refused)
    else if tok.startsWith "--" then
      let (name, attached) := splitLong (tok.drop 2).toString
      if name = "help" then (if attached.isSome then .refused else .help)
      else if name = "trace" then
        if attached.isSome || trace then .refused else scan opts true acc rest
      else match opts.find? (·.long == name) with
        | none => .refused
        | some spec =>
          match spec.value, attached with
          | none, some _ => .refused
          | none, none =>
            match record spec "" acc with
            | some acc => scan opts trace acc rest
            | none => .refused
          | some _, some v =>
            match record spec v acc with
            | some acc => scan opts trace acc rest
            | none => .refused
          | some _, none => takeNext spec acc trace
    else if looksLikeOption tok then
      match cluster opts trace acc (tok.drop 1).toString.toList with
      | .stop s => s
      | .going acc trace none => scan opts trace acc rest
      | .going acc trace (some spec) => takeNext spec acc trace
    else .refused

def valueOf (values : List (String × String)) (long : String) : Option String :=
  (values.find? (·.1 == long)).map (·.2)

/-- The command a topic names, from the values its options were given. -/
def build (topic : Topic) (values : List (String × String)) : Option Command := do
  let flag (n : String) : Bool := (valueOf values n).isSome
  match topic with
  | .run =>
    let board ← valueOf values "board"
    let toggles ← match valueOf values "toggles" with
      | some s => readU64? s
      | none => some 4
    let delay ← match valueOf values "delay" with
      | some s => (readU32? s).map some
      | none => some none
    let nopCycles ← match valueOf values "nop-cycles" with
      | some s => readU32? s
      | none => some 1
    pure (.run ⟨board, toggles, delay, nopCycles, flag "no-clock-gating", flag "stop-on-fault",
      flag "json", valueOf values "vcd", valueOf values "snapshot"⟩)
  | .registers =>
    let board ← valueOf values "board"
    let toggles ← match valueOf values "toggles" with
      | some s => readU64? s
      | none => some 0
    let format ← match valueOf values "format" with
      | some s => readFormat? s
      | none => some .hex
    pure (.registers ⟨board, toggles, format⟩)
  | .boards => pure .boards
  | .check => pure (.check (← valueOf values "board"))
  | _ => none

def topicOf? (name : String) : Option Topic :=
  if name = "run" then some .run else if name = "registers" then some .registers
  else if name = "boards" then some .boards else if name = "check" then some .check
  else if name = "help" then some .help else none

/-- `help` with the names after it: the help of the command they name. -/
def helpFor : List String → Invocation
  | [] => .help .main
  | [name] => (topicOf? name).elim .refused .help
  | _ => .refused

def afterName (topic : Topic) (trace : Bool) (rest : List String) : Invocation :=
  if topic = .help then helpFor rest else
  match scan (specs topic) false [] rest with
  | .help => .help topic
  | .refused => .refused
  | .given values sub => (build topic values).elim .refused (.command (trace || sub))

def topCluster (trace : Bool) : List Char → Option Invocation × Bool
  | [] => (none, trace)
  | c :: cs =>
    if c = 'h' then (some (.help .main), trace)
    else if c = 'V' then (some .version, trace)
    else if c = 't' then (if trace then (some .refused, trace) else topCluster true cs)
    else (some .refused, trace)

def topLevel (trace : Bool) : List String → Invocation
  | [] => .refused
  | tok :: rest =>
    if tok = "--" then .refused
    else if tok.startsWith "--" then
      let (name, attached) := splitLong (tok.drop 2).toString
      if attached.isSome then .refused
      else if name = "help" then .help .main
      else if name = "version" then .version
      else if name = "trace" then (if trace then .refused else topLevel true rest)
      else .refused
    else if looksLikeOption tok then
      match topCluster trace (tok.drop 1).toString.toList with
      | (some i, _) => i
      | (none, trace) => topLevel trace rest
    else
      match topicOf? tok with
      | some t => afterName t trace rest
      | none => .refused

/-- Reads a command line (the arguments after the program name). -/
def Invocation.parse (args : List String) : Invocation :=
  topLevel false args

end Heartbeat.Cli
