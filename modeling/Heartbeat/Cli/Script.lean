/-!
# Command-line runs as scripts

A run of the command line is a script of requests to its surroundings: print a line, write a
log record, read a text file, create a file, write bytes into a file, and finally exit with a
code (or abort). Each request that has an answer continues with a function of it, so the same
script can be carried out on a real file system or on a directory held in memory.

A log record is a message and its fields, printed as the message followed by `name=value` for
each field. The message is printed with its terminal controls escaped (`escapeControls`); field
values are printed as they are.

A write lands at a byte offset of a file, over what is there (`overlayAt`): two handles open on
one file each write at their own offset. A file written through a buffer receives its text in
blocks (`flushedPieces`): whatever is still in the buffer reaches the file only when the writer
is dropped, which an abort never does.

* `Level`, `Script`, `escapeControls`, `logLine`;
* `overlayAt`, `bufferCapacity`, `flushedPieces`.
-/

namespace Heartbeat.Cli

inductive Level where
  | error
  | warn
  | info
  | debug
  deriving DecidableEq, Repr

def Level.name : Level → String
  | .error => "ERROR"
  | .warn => " WARN"
  | .info => " INFO"
  | .debug => "DEBUG"

/-- A command-line run, request by request. -/
inductive Script where
  /-- Ends with an exit code. -/
  | exit (code : UInt8)
  /-- Ends abruptly, without an exit code. -/
  | abort
  /-- Prints a line on standard output. -/
  | print (line : String) (next : Script)
  /-- Writes a log record: a message and named field values; it may span several lines. -/
  | log (level : Level) (message : String) (fields : List (String × String)) (next : Script)
  /-- Reads a text file; `none` when it cannot be read. -/
  | load (path : String) (next : Option String → Script)
  /-- Creates a file, or empties an existing one; tells whether that worked. -/
  | create (path : String) (next : Bool → Script)
  /-- Writes a text's bytes into a created file at a byte offset, over what is there. -/
  | write (path : String) (offset : Nat) (text : String) (next : Script)

namespace Script

def printAll : List String → Script → Script
  | [], k => k
  | l :: ls, k => .print l (printAll ls k)

def logAll (level : Level) : List String → Script → Script
  | [], k => k
  | t :: ts, k => .log level t [] (logAll level ts k)

end Script

def hexDigits (n : Nat) : String :=
  String.ofList (Nat.toDigits 16 n)

/-- A log message as it is printed: the escape, bell, backspace and form feed characters and
delete as `\x1b`, `\x07`, `\x08`, `\x0c` and `\x7f`, and the C1 controls (`0x80` to `0x9f`) as
`\u` with the code in braces, so that no message can drive the terminal. -/
def escapeControls (s : String) : String :=
  String.join (s.toList.map fun c =>
    let n := c.toNat
    if n = 0x1b || n = 0x07 || n = 0x08 || n = 0x0c || n = 0x7f then
      "\\x" ++ (if n < 16 then "0" else "") ++ hexDigits n
    else if 0x80 ≤ n && n ≤ 0x9f then "\\u\x7b" ++ hexDigits n ++ "\x7d"
    else String.singleton c)

/-- The text of a log record after its level: the escaped message, then each field. -/
def logLine (message : String) (fields : List (String × String)) : String :=
  escapeControls message ++ String.join (fields.map fun (k, v) => " " ++ k ++ "=" ++ v)

/-- A file's bytes after `data` is written at byte `offset`: the bytes before it stay, a gap
past the end of the file reads as zero bytes, and the bytes past the written ones stay. Writing
nothing changes nothing. -/
def overlayAt (old : ByteArray) (offset : Nat) (data : ByteArray) : ByteArray :=
  if data.size = 0 then old else
  let before := if offset ≤ old.size then old.extract 0 offset
    else old ++ ⟨Array.replicate (offset - old.size) 0⟩
  before ++ data ++ old.extract (offset + data.size) old.size

def bufferCapacity : Nat := 8192

/-- How many of the pieces of a text, given by their sizes in bytes, reach a file written
through a buffer of capacity `cap` before the writer is dropped. A piece smaller than the space
left joins the buffer; otherwise the buffer is first sent to the file if the piece is larger
than the space left, and then the piece joins the buffer, or goes to the file directly when it
is at least as large as the whole buffer. Sending always sends whole pieces. -/
def flushedPieces (cap : Nat) (sizes : List Nat) : Nat :=
  go 0 0 0 sizes
where
  /-- `sent` pieces have reached the file; `held` pieces of `used` bytes are in the buffer. -/
  go (sent held used : Nat) : List Nat → Nat
    | [] => sent
    | n :: ns =>
      if n < cap - used then go sent (held + 1) (used + n) ns
      else
        let sent := if n > cap - used then sent + held else sent
        let (held, used) := if n > cap - used then (0, 0) else (held, used)
        if n ≥ cap then go (sent + held + 1) 0 0 ns
        else go sent (held + 1) (used + n) ns

end Heartbeat.Cli
