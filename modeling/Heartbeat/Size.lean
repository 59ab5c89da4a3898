import Heartbeat.Text.Blank
import Heartbeat.Text.Numeric
import Heartbeat.Text.Utf8

/-!
# Byte sizes written with a unit

A size text is a decimal number followed by a unit, with blanks allowed around both: `1KiB`,
`0.5 MB`, `4096B`. The decimal units (`kB`, `MB`, ... `YB`) are powers of 1000, the binary ones
(`KiB`, `MiB`, ... `YiB`, and `KB`) powers of 1024. The number is read as a binary64 float, the
product with the unit is rounded towards zero and saturates at the largest 64-bit count.

* `Multiple` : a unit, `Multiple.ofName?` its spellings;
* `roundHalfEven`, `nearestFloat` : exact rounding of a decimal to a binary64 float;
* `readDecimal?` : the number, digits with at most one point;
* `parse` : the whole text, with the error that `SizeError` names;
* `parse_empty`, `parse_noMultiple` : laws for texts without a number or without a unit.

The number ends at the first character that is neither numeric (`Text.isNumeric`) nor a point.
That position is counted in characters but the text is cut there in bytes: when a character
before it takes more than one byte the cut may fall inside a character
(`SizeError.splitInsideChar`), or the number may lose its last characters and then fails to read.
-/

namespace Heartbeat.Size

inductive SizeError where
  /-- Nothing but blanks. -/
  | empty
  /-- The text starts with its unit. -/
  | noValue
  /-- The number is not a decimal, or is infinite or subnormal. -/
  | invalidValue
  /-- The text has no unit. -/
  | noMultiple
  /-- The unit is none of the known spellings. -/
  | invalidMultiple
  /-- The number ends inside a multi-byte character once the character count of the number is
  used as a byte count. -/
  | splitInsideChar
  deriving DecidableEq, Repr

def SizeError.message : SizeError → String
  | .empty => "input is empty"
  | .noValue => "no value"
  | .invalidValue => "invalid value"
  | .noMultiple => "no multiple"
  | .invalidMultiple => "invalid multiple"
  | .splitInsideChar => "number ends inside a character"

/-- A unit of bytes: `1000 ^ power` for a decimal unit, `1024 ^ power` for a binary one. -/
structure Multiple where
  binary : Bool
  power : Nat
  deriving DecidableEq, Repr

def Multiple.bytes (m : Multiple) : Nat :=
  Nat.pow (if m.binary then 1024 else 1000) m.power

/-- The decimal units from kilo to yotta, in order of power. -/
def decimalNames : List String := ["kB", "MB", "GB", "TB", "PB", "EB", "ZB", "YB"]

def binaryNames : List String := ["KiB", "MiB", "GiB", "TiB", "PiB", "EiB", "ZiB", "YiB"]

/-- The unit of an exact spelling. `KB` is the kibibyte. -/
def Multiple.ofExact? (s : String) : Option Multiple :=
  if s = "B" then some ⟨false, 0⟩
  else if s = "KB" then some ⟨true, 1⟩
  else match decimalNames.findIdx? (· == s) with
    | some i => some ⟨false, i + 1⟩
    | none => (binaryNames.findIdx? (· == s)).map fun i => ⟨true, i + 1⟩

def lowerAscii (s : String) : String :=
  s.map Char.toLower

/-- The unit of a spelling in any case of its ASCII letters: `kb` is the kilobyte, `kib` the
kibibyte. -/
def Multiple.ofAnyCase? (s : String) : Option Multiple :=
  let t := lowerAscii s
  if t = "b" then some ⟨false, 0⟩
  else match (decimalNames.map lowerAscii).findIdx? (· == t) with
    | some i => some ⟨false, i + 1⟩
    | none => ((binaryNames.map lowerAscii).findIdx? (· == t)).map fun i => ⟨true, i + 1⟩

/-- The unit a spelling names: an exact spelling first, then any case. -/
def Multiple.ofName? (s : String) : Option Multiple :=
  (Multiple.ofExact? s).orElse fun _ => Multiple.ofAnyCase? s

def digitsValue (ds : List Char) : Nat :=
  ds.foldl (fun n d => 10 * n + (d.toNat - '0'.toNat)) 0

/-- Whether `m / den ≥ 2 ^ k`. -/
def atLeastPow2 (m den : Nat) (k : Int) : Bool :=
  if k ≥ 0 then m ≥ den <<< k.toNat else m <<< (-k).toNat ≥ den

/-- The integer nearest to `a / d`, ties to the even one. -/
def roundHalfEven (a d : Nat) : Nat :=
  let q := a / d
  let r := a % d
  if 2 * r < d then q else if d < 2 * r then q + 1 else if q % 2 = 0 then q else q + 1

/-- The binary64 float nearest to `m / 10 ^ e`, ties to an even mantissa. The quotient is scaled
by `2 ^ k` so that its integer part has 53 bits (`k` stops at `-1074`, below which a float
has no bits) and rounded to the nearest integer `q` (`roundHalfEven`), then packed: a `q`
below `2 ^ 52` is subnormal, one that rounded up to `2 ^ 53` moves to the next exponent, and an
exponent past the largest is infinite. -/
def nearestFloat (m e : Nat) : Float :=
  if m = 0 then 0 else
  let den := Nat.pow 10 e
  let guess : Int := (Nat.log2 m : Int) - (Nat.log2 den : Int)
  let lg : Int := if atLeastPow2 m den guess then guess else guess - 1
  let k : Int := max (lg - 52) (-1074)
  let num := if k ≥ 0 then m else m <<< (-k).toNat
  let dnm := if k ≥ 0 then den <<< k.toNat else den
  let q := roundHalfEven num dnm
  let (q, k) := if q == 1 <<< 53 then (1 <<< 52, k + 1) else (q, k)
  if q < 1 <<< 52 then Float.ofBits q.toUInt64
  else
    let biased := k + 52 + 1023
    if biased ≥ 2047 then Float.ofBits 0x7FF0000000000000
    else Float.ofBits ((biased.toNat.toUInt64 <<< 52) ||| (q - (1 <<< 52)).toUInt64)

/-- Reads decimal digits with at most one point and at least one digit, rounding to the nearest
binary64 float. -/
def readDecimal? (cs : List Char) : Option Float :=
  let whole := cs.takeWhile Char.isDigit
  match cs.dropWhile Char.isDigit with
  | [] => if whole.isEmpty then none else some (nearestFloat (digitsValue whole) 0)
  | '.' :: frac =>
    if frac.all Char.isDigit && !(whole.isEmpty && frac.isEmpty) then
      some (nearestFloat (digitsValue (whole ++ frac)) frac.length)
    else
      none
  | _ => none

/-- A float that is zero or normal: neither infinite, nor NaN, nor subnormal. -/
def isNormalOrZero (x : Float) : Bool :=
  let e := (x.toBits >>> 52) &&& 0x7FF
  (e != 0 && e != 0x7FF) || x == 0

def isNumberChar (c : Char) : Bool :=
  Text.isNumeric c || c == '.'

/-- Reads a size text as a count of bytes. -/
def parse (s : String) : Except SizeError UInt64 :=
  let cs := Text.trimBlank s.toList
  if cs.isEmpty then .error .empty
  else match cs.findIdx? (fun c => !isNumberChar c) with
    | none => .error .noMultiple
    | some 0 => .error .noValue
    | some k =>
      match Text.splitAtByte? cs k with
      | none => .error .splitInsideChar
      | some (number, unit) =>
        match readDecimal? number with
        | none => .error .invalidValue
        | some value =>
          match Multiple.ofName? (String.ofList (Text.trimBlank unit)) with
          | none => .error .invalidMultiple
          | some m =>
            if isNormalOrZero value then .ok (value * Float.ofNat m.bytes).toUInt64
            else .error .invalidValue

theorem parse_empty {s : String} (h : Text.trimBlank s.toList = []) : parse s = .error .empty := by
  simp [parse, h]

/-- A text made of numeric characters and points alone has no unit. -/
theorem parse_noMultiple {s : String} (h : Text.trimBlank s.toList ≠ [])
    (hnum : ∀ c ∈ Text.trimBlank s.toList, isNumberChar c = true) :
    parse s = .error .noMultiple := by
  have hnone : (Text.trimBlank s.toList).findIdx? (fun c => !isNumberChar c) = none := by
    rw [List.findIdx?_eq_none_iff]
    intro c hc
    simp [hnum c hc]
  simp [parse, hnone, List.isEmpty_iff, h]

end Heartbeat.Size
