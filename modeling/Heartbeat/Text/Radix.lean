/-!
# Numbers written in base 2, 10 and 16

Register values are written in hexadecimal with the prefix `0x` and lower-case digits, padded
with zeros to a fixed number of digits, or in binary with the prefix `0b`.

* `digits` : the digits of a number in a base, most significant first;
* `padded` : at least `n` digits, zeros in front;
* `hexWord` : `0x` and eight hex digits, the usual register display;
* `hexShort` : `0x` and as few hex digits as possible;
* `hexAtLeast` : `0x` and at least `n` hex digits;
* `binaryWord` : `0b` and thirty-two binary digits; `bitString` : the digits alone.
-/

namespace Heartbeat.Text

/-- The digits of `n` in base `b` (at most 16), most significant first, lower-case letters. -/
def digits (b n : Nat) : List Char :=
  Nat.toDigits b n

def padded (b width n : Nat) : String :=
  let ds := digits b n
  String.ofList (List.replicate (width - ds.length) '0' ++ ds)

def hexWord (v : UInt32) : String :=
  "0x" ++ padded 16 8 v.toNat

/-- `0x` and the hex digits of a number without leading zeros. -/
def hexShort (n : Nat) : String :=
  "0x" ++ padded 16 1 n

def hexAtLeast (width n : Nat) : String :=
  "0x" ++ padded 16 width n

def bitString (v : UInt32) : String :=
  padded 2 32 v.toNat

def binaryWord (v : UInt32) : String :=
  "0b" ++ bitString v

end Heartbeat.Text
