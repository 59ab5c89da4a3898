/-!
# JSON values

A JSON value keeps its object members in the order they were written, duplicates included, and
classifies each number the way the 64-bit readers do: a non-negative integer that fits 64 bits,
a negative integer that fits 64 signed bits, or anything else (a fraction, an exponent, `-0`, an
integer out of range), which only a float can hold.

* `Number`, `Value` : the types;
* `Doc` : a text as read, its strings still as written;
* `Value.field?` : the last member of an object with a given key, as a map built from the
  members would hold it;
* `Value.canonical` : one member per key, in key order, as a map-backed tree holds it;
* `Value.asU64?`, `asU32?`, `asU8?`, `asBool?`, `asString?`, `asArray?` : typed views.
-/

namespace Heartbeat.Json

/-- A JSON number, classified as a reader of 64-bit integers and floats sees it. -/
inductive Number where
  /-- A non-negative integer below `2 ^ 64`. -/
  | nat (n : Nat)
  /-- The negative integer `-n`, with `1 ≤ n ≤ 2 ^ 63`. -/
  | neg (n : Nat)
  /-- Any other number, kept as written. -/
  | float (text : String)
  deriving DecidableEq, Repr

inductive Value where
  | null
  | bool (b : Bool)
  | num (n : Number)
  | str (s : String)
  | arr (items : List Value)
  | obj (members : List (String × Value))
  deriving Repr, Inhabited

/-- A JSON text as read, before its strings are decoded: every string and every member key is
kept as written between its quotes, escapes undone only when it is used. A reader that skips a
value never decodes it, so an escape that decodes to no character (a lone surrogate) in a value
nobody reads does no harm. -/
inductive Doc where
  | null
  | bool (b : Bool)
  | num (n : Number)
  | str (raw : String)
  | arr (items : List Doc)
  | obj (members : List (String × Doc))
  deriving Repr, Inhabited

namespace Value

def ofNat (n : Nat) : Value := .num (.nat n)

/-- The last member with key `k`: a map built from the members keeps the last one. -/
def lookup (k : String) : List (String × Value) → Option Value
  | [] => none
  | (k', v) :: rest =>
    match lookup k rest with
    | some w => some w
    | none => if k' = k then some v else none

/-- The member `k` of an object, or `none` for a missing member or a value that is no object. -/
def field? (v : Value) (k : String) : Option Value :=
  match v with
  | .obj ms => lookup k ms
  | _ => none

/-- The members of an object, with later duplicates replacing earlier ones in place of the
first: the keys of a map built from the members, each with its last value. -/
def dedup (ms : List (String × Value)) : List (String × Value) :=
  ms.foldl (fun acc m => if acc.any (·.1 == m.1) then acc.map (fun a => if a.1 == m.1 then m else a)
    else acc ++ [m]) []

def sortMembers (ms : List (String × Value)) : List (String × Value) :=
  ms.mergeSort fun a b => decide (a.1 ≤ b.1)

mutual

/-- The value a map-backed JSON tree holds: in every object, one member per key (the last one
written), in key order. -/
def canonical : Value → Value
  | .arr xs => .arr (canonicalItems xs)
  | .obj ms => .obj (sortMembers (dedup (canonicalMembers ms)))
  | v => v

def canonicalItems : List Value → List Value
  | [] => []
  | v :: vs => canonical v :: canonicalItems vs

def canonicalMembers : List (String × Value) → List (String × Value)
  | [] => []
  | (k, v) :: ms => (k, canonical v) :: canonicalMembers ms

end

def asU64? : Value → Option Nat
  | .num (.nat n) => some n
  | _ => none

def asU32? (v : Value) : Option UInt32 :=
  v.asU64?.bind fun n => if n < UInt32.size then some n.toUInt32 else none

def asU8? (v : Value) : Option UInt8 :=
  v.asU64?.bind fun n => if n < UInt8.size then some n.toUInt8 else none

def asBool? : Value → Option Bool
  | .bool b => some b
  | _ => none

def asString? : Value → Option String
  | .str s => some s
  | _ => none

def asArray? : Value → Option (List Value)
  | .arr xs => some xs
  | _ => none

def isNull : Value → Bool
  | .null => true
  | _ => false

end Value

end Heartbeat.Json
