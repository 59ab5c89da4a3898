import Heartbeat.Json.Basic

/-!
# Reading JSON text

The strict grammar: blanks are space, tab, line feed and carriage return; a number is
`-?(0|[1-9][0-9]*)(.[0-9]+)?([eE][+-]?[0-9]+)?`; a string holds no raw control character and
only the escapes `\" \\ \/ \b \f \n \r \t \uXXXX`; nothing but blanks may follow the value. A
decoded string must pair each `\u` escape of a leading surrogate with one of a trailing
surrogate.
Arrays and objects nest without a limit: the fields a profile knows are a few levels deep, and
the values of fields it does not know are skipped whatever their depth.

A string is first read as written (`scanString` checks only its escapes and control
characters) and decoded when it is used (`unescape?`).

* `Number.classify` : the number class of an integer literal;
* `readDoc?` : a whole text, strings as written, `none` when it is not JSON;
* `unescape?`, `Doc.toValue?` : decoding strings;
* `read?` : a whole text, decoded.
-/

namespace Heartbeat.Json

def isJsonBlank (c : Char) : Bool :=
  c == ' ' || c == '\t' || c == '\n' || c == '\r'

def skipBlank (cs : List Char) : List Char :=
  cs.dropWhile isJsonBlank

def decimalValue (ds : List Char) : Nat :=
  ds.foldl (fun n d => 10 * n + (d.toNat - '0'.toNat)) 0

def hexDigit? (c : Char) : Option Nat :=
  if c.isDigit then some (c.toNat - '0'.toNat)
  else if 'a' ≤ c && c ≤ 'f' then some (c.toNat - 'a'.toNat + 10)
  else if 'A' ≤ c && c ≤ 'F' then some (c.toNat - 'A'.toNat + 10)
  else none

def hex4? : List Char → Option (Nat × List Char)
  | a :: b :: c :: d :: rest => do
    let a ← hexDigit? a
    let b ← hexDigit? b
    let c ← hexDigit? c
    let d ← hexDigit? d
    pure (((a * 16 + b) * 16 + c) * 16 + d, rest)
  | _ => none

/-- The class of an integer literal: `negative` tells a leading minus. -/
def Number.classify (negative : Bool) (n : Nat) (text : String) : Number :=
  if negative then
    if 1 ≤ n ∧ n ≤ UInt64.size / 2 then .neg n else .float text
  else
    if n < UInt64.size then .nat n else .float text

def readNumber (cs : List Char) : Option (Number × List Char) :=
  let (negative, body) := match cs with
    | '-' :: r => (true, r)
    | r => (false, r)
  let whole := body.takeWhile Char.isDigit
  let afterWhole := body.dropWhile Char.isDigit
  if whole.isEmpty then none
  else if whole.length > 1 && whole.head? == some '0' then none
  else
    let (fracOk, hasFrac, afterFrac) := match afterWhole with
      | '.' :: r =>
        let ds := r.takeWhile Char.isDigit
        (!ds.isEmpty, true, r.dropWhile Char.isDigit)
      | r => (true, false, r)
    if !fracOk then none
    else
      let (expOk, hasExp, rest) := match afterFrac with
        | e :: r =>
          if e == 'e' || e == 'E' then
            let r := match r with
              | '+' :: r' => r'
              | '-' :: r' => r'
              | r' => r'
            let ds := r.takeWhile Char.isDigit
            (!ds.isEmpty, true, r.dropWhile Char.isDigit)
          else (true, false, afterFrac)
        | [] => (true, false, [])
      if !expOk then none
      else
        let text := String.ofList (cs.take (cs.length - rest.length))
        if hasFrac || hasExp then some (.float text, rest)
        else some (Number.classify negative (decimalValue whole) text, rest)

/-- Reads the rest of a string after its opening quote, as written: up to the closing quote, with
no raw control character, and each escape one of `\" \\ \/ \b \f \n \r \t` or `\u` and four
hexadecimal digits. Gives the text between the quotes and what follows the closing quote. -/
def scanString (fuel : Nat) (acc : List Char) (cs : List Char) : Option (String × List Char) :=
  match fuel with
  | 0 => none
  | fuel + 1 =>
    match cs with
    | [] => none
    | '"' :: rest => some (String.ofList acc.reverse, rest)
    | '\\' :: e :: rest =>
      if e == 'u' then
        match rest with
        | a :: b :: c :: d :: rest' =>
          if [a, b, c, d].all fun x => (hexDigit? x).isSome then
            scanString fuel (d :: c :: b :: a :: 'u' :: '\\' :: acc) rest'
          else none
        | _ => none
      else if "\"\\/bfnrt".contains e then scanString fuel (e :: '\\' :: acc) rest
      else none
    | c :: rest =>
      if c.toNat < 0x20 then none else scanString fuel (c :: acc) rest

/-- Decodes a string as written, up to its closing quote: undoes the escapes, where a `\u` escape
of a leading surrogate must be followed by one of a trailing surrogate, the two standing for one
character, and a trailing surrogate may not stand alone. -/
def decodeString (fuel : Nat) (acc : List Char) (cs : List Char) : Option (String × List Char) :=
  match fuel with
  | 0 => none
  | fuel + 1 =>
    match cs with
    | [] => none
    | '"' :: rest => some (String.ofList acc.reverse, rest)
    | '\\' :: e :: rest =>
      match e with
      | '"' => decodeString fuel ('"' :: acc) rest
      | '\\' => decodeString fuel ('\\' :: acc) rest
      | '/' => decodeString fuel ('/' :: acc) rest
      | 'b' => decodeString fuel (Char.ofNat 8 :: acc) rest
      | 'f' => decodeString fuel (Char.ofNat 12 :: acc) rest
      | 'n' => decodeString fuel ('\n' :: acc) rest
      | 'r' => decodeString fuel ('\r' :: acc) rest
      | 't' => decodeString fuel ('\t' :: acc) rest
      | 'u' =>
        match hex4? rest with
        | none => none
        | some (hi, rest) =>
          if 0xD800 ≤ hi ∧ hi < 0xDC00 then
            match rest with
            | '\\' :: 'u' :: rest' =>
              match hex4? rest' with
              | some (lo, rest'') =>
                if 0xDC00 ≤ lo ∧ lo < 0xE000 then
                  decodeString fuel
                    (Char.ofNat (0x10000 + (hi - 0xD800) * 0x400 + (lo - 0xDC00)) :: acc) rest''
                else none
              | none => none
            | _ => none
          else if 0xDC00 ≤ hi ∧ hi < 0xE000 then none
          else decodeString fuel (Char.ofNat hi :: acc) rest
      | _ => none
    | c :: rest =>
      if c.toNat < 0x20 then none else decodeString fuel (c :: acc) rest

/-- The text a string as written stands for; `none` when it holds a lone surrogate. -/
def unescape? (raw : String) : Option String :=
  let cs := raw.toList ++ ['"']
  (decodeString cs.length [] cs).map (·.1)

mutual
def readValue (fuel : Nat) (cs : List Char) : Option (Doc × List Char) :=
  match fuel with
  | 0 => none
  | fuel + 1 =>
    match skipBlank cs with
    | 'n' :: 'u' :: 'l' :: 'l' :: rest => some (.null, rest)
    | 't' :: 'r' :: 'u' :: 'e' :: rest => some (.bool true, rest)
    | 'f' :: 'a' :: 'l' :: 's' :: 'e' :: rest => some (.bool false, rest)
    | '"' :: rest => (scanString rest.length [] rest).map fun (s, r) => (.str s, r)
    | '[' :: rest =>
      match skipBlank rest with
      | ']' :: rest' => some (.arr [], rest')
      | _ => readItems fuel [] rest
    | '{' :: rest =>
      match skipBlank rest with
      | '}' :: rest' => some (.obj [], rest')
      | _ => readMembers fuel [] rest
    | c :: rest =>
      if c == '-' || c.isDigit then
        (readNumber (c :: rest)).map fun (n, r) => (.num n, r)
      else none
    | [] => none

/-- Reads the items of an array, the opening bracket already read. -/
def readItems (fuel : Nat) (acc : List Doc) (cs : List Char) :
    Option (Doc × List Char) :=
  match fuel with
  | 0 => none
  | fuel + 1 =>
    match readValue fuel cs with
    | none => none
    | some (v, rest) =>
      match skipBlank rest with
      | ',' :: rest' => readItems fuel (v :: acc) rest'
      | ']' :: rest' => some (.arr (v :: acc).reverse, rest')
      | _ => none

def readMembers (fuel : Nat) (acc : List (String × Doc)) (cs : List Char) :
    Option (Doc × List Char) :=
  match fuel with
  | 0 => none
  | fuel + 1 =>
    match skipBlank cs with
    | '"' :: rest =>
      match scanString rest.length [] rest with
      | none => none
      | some (k, rest) =>
        match skipBlank rest with
        | ':' :: rest =>
          match readValue fuel rest with
          | none => none
          | some (v, rest) =>
            match skipBlank rest with
            | ',' :: rest' => readMembers fuel ((k, v) :: acc) rest'
            | '}' :: rest' => some (.obj ((k, v) :: acc).reverse, rest')
            | _ => none
        | _ => none
    | _ => none
end

mutual
/-- The value a text as read stands for, every string decoded; `none` when one holds a lone
surrogate. -/
def Doc.toValue? : Doc → Option Value
  | .null => some .null
  | .bool b => some (.bool b)
  | .num n => some (.num n)
  | .str raw => (unescape? raw).map .str
  | .arr items => (Doc.itemsToValue? items).map .arr
  | .obj members => (Doc.membersToValue? members).map .obj

def Doc.itemsToValue? : List Doc → Option (List Value)
  | [] => some []
  | d :: ds => do
    let v ← d.toValue?
    let vs ← Doc.itemsToValue? ds
    pure (v :: vs)

def Doc.membersToValue? : List (String × Doc) → Option (List (String × Value))
  | [] => some []
  | (k, d) :: ms => do
    let k ← unescape? k
    let v ← d.toValue?
    let vs ← Doc.membersToValue? ms
    pure ((k, v) :: vs)
end

/-- Reads a whole JSON text, its strings as written; `none` unless it is one value with only
blanks around it. -/
def readDoc? (s : String) : Option Doc :=
  let cs := s.toList
  match readValue (2 * cs.length + 2) cs with
  | some (v, rest) => if (skipBlank rest).isEmpty then some v else none
  | none => none

/-- Reads a whole JSON text and decodes all its strings; `none` unless it is one value with only
blanks around it and no string in it holds a lone surrogate. -/
def read? (s : String) : Option Value :=
  (readDoc? s).bind Doc.toValue?

end Heartbeat.Json
