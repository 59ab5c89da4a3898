import Heartbeat.Bus.Observer
import Heartbeat.Target
import Heartbeat.Text.Radix

/-!
# LED waveforms

A value change dump (VCD, 1 ns per cycle) of a blink run, written by a bus observer: two
one-bit signals `led` and `clock_en` in scope `heartbeat`, and the bus signals `addr`, `data`
(32 bits) and `we` in scope `bus`. Time advances to an access's cycle, or to the cycle a
busy-wait ends at, only when that is later than the last time written.

* a read drives `we` low; a write drives `addr`, `data`, and `we` high;
* a write to the output register sets `led` to the output bit of the value written (remembering
  the level before), and a write to the clock register sets `clock_en` to whether every clock
  bit is written; a signal is dumped only when it changes;
* a clock-disabled fault at the output register takes `led` back to its level before that
  write, since the write never reached the pin;
* a busy-wait drives `we` low.

Each line is kept as the pieces it is written in, since a buffered file receives the dump in
blocks that end between pieces: a time is `#`, its digits and the line break; a scalar change is
its value, its id and the break; a vector change is `b`, each bit on its own, a blank, its id
and the break. A declaration line is one piece (the declarations are far shorter than a
block, so where they are cut never matters).

* `Waveform`, `Waveform.start`, `Waveform.pieces`, `Waveform.text`.
-/

namespace Heartbeat

/-- A waveform being written: the heartbeat it follows, the last time written, the signals'
levels, and the lines so far, newest first, each as its pieces. -/
structure Waveform where
  target : BlinkTarget
  time : UInt64
  led : Bool
  clockEn : Bool
  /-- The LED level before the latest write to the output register. -/
  ledBeforeWrite : Bool
  lines : List (List String)
  deriving Repr

namespace Waveform

def bit (b : Bool) : String := if b then "1" else "0"

def scalar (b : Bool) (id : String) : List String := [bit b, id, "\n"]

/-- A 32-bit value change of a signal, one piece per bit. -/
def vector (v : UInt32) (id : String) : List String :=
  "b" :: (Text.bitString v).toList.map String.singleton ++ [" ", id, "\n"]

def timeMark (t : Nat) : List String := ["#", toString t, "\n"]

def declaration (line : String) : List String := [line ++ "\n"]

/-- The declarations and the dump at time zero. -/
def header (led clockEn : Bool) : List (List String) :=
  (["$timescale 1 ns $end", "$scope module heartbeat $end", "$var wire 1 ! led $end",
    "$var wire 1 \" clock_en $end", "$scope module bus $end", "$var wire 32 # addr $end",
    "$var wire 32 $ data $end", "$var wire 1 % we $end", "$upscope $end", "$upscope $end",
    "$enddefinitions $end"].map declaration) ++
  [timeMark 0, scalar led "!", scalar clockEn "\"", vector 0 "#", vector 0 "$",
    scalar false "%"]

def start (target : BlinkTarget) (led clockEn : Bool) : Waveform :=
  ⟨target, 0, led, clockEn, led, (header led clockEn).reverse⟩

def emit (w : Waveform) (line : List String) : Waveform := { w with lines := line :: w.lines }

/-- Moves time forward to `t`, when it is later. -/
def advance (w : Waveform) (t : UInt64) : Waveform :=
  if t > w.time then { w with time := t }.emit (timeMark t.toNat) else w

def outputWritten (w : Waveform) (v : UInt32) : Waveform :=
  let w := { w with ledBeforeWrite := w.led }
  let led := v &&& w.target.output.mask != 0
  if led != w.led then { w with led := led }.emit (scalar led "!") else w

def clockWritten (w : Waveform) (v : UInt32) : Waveform :=
  let m := w.target.clock.mask
  let en := v &&& m == m
  if en != w.clockEn then { w with clockEn := en }.emit (scalar en "\"") else w

def accessed (w : Waveform) (a : Access) : Waveform :=
  let w := w.advance a.cycle
  match a.kind with
  | .read => w.emit (scalar false "%")
  | .write =>
    let w := ((w.emit (vector a.address "#")).emit (vector a.value "$")).emit (scalar true "%")
    let w := if a.address = w.target.output.register.addr then w.outputWritten a.value else w
    if a.address = w.target.clock.register.addr then w.clockWritten a.value else w

/-- The waveform after a fault: a dropped write to the output register never reached the pin. -/
def faulted (w : Waveform) (f : Fault) : Waveform :=
  match f with
  | .clockDisabled _ addr _ =>
    if addr = w.target.output.register.addr && w.led != w.ledBeforeWrite then
      { w with led := w.ledBeforeWrite }.emit (scalar w.ledBeforeWrite "!")
    else w
  | _ => w

instance : Observer Waveform where
  onAccess w _ a := w.accessed a
  onFault w f := w.faulted f
  onDelay w _ cycle := (w.advance cycle).emit (scalar false "%")

/-- The pieces of the dump, in the order they are written. -/
def pieces (w : Waveform) : List String :=
  w.lines.reverse.flatten

def text (w : Waveform) : String :=
  String.join w.pieces

end Waveform

instance {α : Type} [Observer α] : Observer (Option α) where
  onAccess o n a := o.map fun s => Observer.onAccess s n a
  onFault o f := o.map fun s => Observer.onFault s f
  onDelay o i c := o.map fun s => Observer.onDelay s i c

end Heartbeat
