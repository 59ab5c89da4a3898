import Heartbeat.Json.Basic

/-!
# Writing JSON text

Two layouts: compact, with no blank at all, and pretty, with one member or item per line
indented by two spaces per level, `": "` after a key, and `[]` or `{}` for an empty array or
object. Strings escape the quote, the backslash and every control character below `U+0020`
(`\b`, `\t`, `\n`, `\f`, `\r` by name, the others as `\u00xx` in lower-case hex); all other
characters are written as they are.
-/

namespace Heartbeat.Json

/-- The four hexadecimal digits of a code point below `0x10000`, in lower case. -/
def hex4 (n : Nat) : String :=
  let ds := Nat.toDigits 16 n
  String.ofList (List.replicate (4 - ds.length) '0' ++ ds)

def escapeChar (c : Char) : String :=
  if c = '"' then "\\\""
  else if c = '\\' then "\\\\"
  else if c = '\n' then "\\n"
  else if c = '\r' then "\\r"
  else if c = '\t' then "\\t"
  else if c.toNat = 8 then "\\b"
  else if c.toNat = 12 then "\\f"
  else if c.toNat < 0x20 then "\\u" ++ hex4 c.toNat
  else c.toString

def quote (s : String) : String :=
  "\"" ++ String.join (s.toList.map escapeChar) ++ "\""

def Number.render : Number → String
  | .nat n => toString n
  | .neg n => "-" ++ toString n
  | .float t => t

namespace Value

mutual
/-- Compact text: no blank between tokens. -/
def compact : Value → String
  | .null => "null"
  | .bool true => "true"
  | .bool false => "false"
  | .num n => n.render
  | .str s => quote s
  | .arr xs => "[" ++ compactItems xs ++ "]"
  | .obj ms => "\x7b" ++ compactMembers ms ++ "\x7d"

def compactItems : List Value → String
  | [] => ""
  | [x] => compact x
  | x :: xs => compact x ++ "," ++ compactItems xs

def compactMembers : List (String × Value) → String
  | [] => ""
  | [(k, v)] => quote k ++ ":" ++ compact v
  | (k, v) :: ms => quote k ++ ":" ++ compact v ++ "," ++ compactMembers ms
end

def indent (level : Nat) : String :=
  String.ofList (List.replicate (2 * level) ' ')

mutual
/-- Pretty text at a nesting level: one item or member per line. -/
def prettyAt (level : Nat) : Value → String
  | .arr [] => "[]"
  | .obj [] => "\x7b\x7d"
  | .arr xs => "[\n" ++ prettyItems (level + 1) xs ++ "\n" ++ indent level ++ "]"
  | .obj ms => "\x7b\n" ++ prettyMembers (level + 1) ms ++ "\n" ++ indent level ++ "\x7d"
  | v => compact v

def prettyItems (level : Nat) : List Value → String
  | [] => ""
  | [x] => indent level ++ prettyAt level x
  | x :: xs => indent level ++ prettyAt level x ++ ",\n" ++ prettyItems level xs

def prettyMembers (level : Nat) : List (String × Value) → String
  | [] => ""
  | [(k, v)] => indent level ++ quote k ++ ": " ++ prettyAt level v
  | (k, v) :: ms => indent level ++ quote k ++ ": " ++ prettyAt level v ++ ",\n" ++
      prettyMembers level ms
end

def pretty (v : Value) : String :=
  prettyAt 0 v

end Value

end Heartbeat.Json
