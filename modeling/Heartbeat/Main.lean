import Heartbeat.Cli.Commands

/-!
# The command line

Carries out the script of the command line on the real file system: prints on standard output,
writes log records there too (each as a level, the message and its fields), writes a file's
bytes at the offset a script gives, and returns the exit code, with `134` for an abort.
-/

namespace Heartbeat.Cli

def perform : Script → IO UInt32
  | .exit code => pure code.toUInt32
  | .abort => pure 134
  | .print line next => do
    IO.println line
    perform next
  | .log level message fields next => do
    IO.println (level.name ++ " heartbeat_cli: " ++ logLine message fields)
    perform next
  | .load path next => do
    let text ← try some <$> IO.FS.readFile path catch _ => pure none
    perform (next text)
  | .create path next => do
    let ok ← try IO.FS.writeFile path ""; pure true catch _ => pure false
    perform (next ok)
  | .write path offset text next => do
    try
      let old ← try IO.FS.readBinFile path catch _ => pure ByteArray.empty
      IO.FS.writeBinFile path (overlayAt old offset text.toUTF8)
    catch _ => pure ()
    perform next

end Heartbeat.Cli

def main (args : List String) : IO UInt32 := do
  let code ← Heartbeat.Cli.perform (Heartbeat.Cli.program args)
  (← IO.getStdout).flush
  pure code
