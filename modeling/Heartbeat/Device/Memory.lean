import Heartbeat.Fault

/-!
# Plain memory

A block of 32-bit words with no side effects: `size / 4` words, the word of a byte offset being
`offset / 4`, so offsets need not be aligned. An offset past the last word faults with the
offset itself. The words are kept sparsely: a table of the non-zero words by index, in index
order.

* `Memory`, `Memory.init`, `read`, `write`, `reset`, `used`.
-/

namespace Heartbeat

/-- A block of `count` words, of which those listed in `cells` are not zero. -/
structure Memory where
  count : Nat
  cells : List (Nat × UInt32)
  deriving DecidableEq, Repr

/-- The word at an index of a sparse table; zero when not listed. -/
def cellAt (i : Nat) : List (Nat × UInt32) → UInt32
  | [] => 0
  | (j, w) :: rest => if i = j then w else cellAt i rest

/-- A sparse table with the word at `i` set to `w`: in index order, zero words left out. -/
def setCell (i : Nat) (w : UInt32) : List (Nat × UInt32) → List (Nat × UInt32)
  | [] => if w = 0 then [] else [(i, w)]
  | (j, x) :: rest =>
    if i < j then (if w = 0 then (j, x) :: rest else (i, w) :: (j, x) :: rest)
    else if i = j then (if w = 0 then rest else (i, w) :: rest)
    else (j, x) :: setCell i w rest

namespace Memory

/-- A zeroed block of `size` bytes, rounded down to whole words. -/
def init (size : UInt64) : Memory := ⟨size.toNat / 4, []⟩

def reset (m : Memory) : Memory := ⟨m.count, []⟩

/-- The word holding a byte offset, or a fault at that offset when it is past the end. -/
def read (m : Memory) (offset : UInt32) : Except Fault UInt32 :=
  if offset.toNat / 4 < m.count then .ok (cellAt (offset.toNat / 4) m.cells)
  else .error (.memoryViolation offset)

/-- The block with the word holding a byte offset replaced, or a fault at that offset when it is
past the end. -/
def write (m : Memory) (offset v : UInt32) : Except Fault Memory :=
  if offset.toNat / 4 < m.count then .ok ⟨m.count, setCell (offset.toNat / 4) v m.cells⟩
  else .error (.memoryViolation offset)

def used (m : Memory) : List (Nat × UInt32) := m.cells

end Memory

end Heartbeat
