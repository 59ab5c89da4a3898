import Heartbeat.Yaml.Node

/-!
# YAML tokens and character classes

The tokens a YAML text is cut into before its structure is read, and the classes of characters
the cutting looks at.

Line breaks are carriage return, line feed, next line (`U+0085`), line separator (`U+2028`) and
paragraph separator (`U+2029`); a carriage return before a line feed is one break with it.
Blanks are the space and the tab. A text may hold only the tab, the line feed, the carriage
return, the printable ASCII characters, next line, and the characters from `U+00A0` on but the
surrogates, `U+FFFE` and `U+FFFF`.

* `Token` : the tokens;
* `isBreak`, `isBlank`, `isBlankZ`, `isWordChar`, `isUriChar`, `isAllowed` : the classes.
-/

namespace Heartbeat.Yaml

/-- A token of a YAML text. Block structure is made explicit: a block collection starts with
its own token where its first entry is found and ends with `blockEnd` where the indentation
falls back. A mapping key gets a `key` token in front of it once its `:` is seen. -/
inductive Token where
  | streamStart
  | streamEnd
  /-- `%YAML major.minor`. -/
  | versionDirective (major minor : Nat)
  /-- `%TAG handle prefix`; the prefix as the bytes it spells. -/
  | tagDirective (handle : String) (pre : List UInt8)
  | documentStart
  | documentEnd
  | blockSequenceStart
  | blockMappingStart
  | blockEnd
  | flowSequenceStart
  | flowSequenceEnd
  | flowMappingStart
  | flowMappingEnd
  | blockEntry
  | flowEntry
  | key
  | value
  | alias (name : String)
  | anchor (name : String)
  /-- A tag: its handle (empty for a verbatim tag) and its suffix as the bytes it spells. -/
  | tag (handle : String) (suffix : List UInt8)
  | scalar (text : String) (style : Style)
  deriving DecidableEq, Repr, Inhabited

def lineSeparator : Char := Char.ofNat 0x2028

def paragraphSeparator : Char := Char.ofNat 0x2029

def nextLine : Char := Char.ofNat 0x85

/-- The backquote `U+0060`, which no plain scalar may start with. -/
def backquote : Char := Char.ofNat 0x60

def byteOrderMark : Char := Char.ofNat 0xFEFF

def isBreak (c : Char) : Bool :=
  c == '\r' || c == '\n' || c == nextLine || c == lineSeparator || c == paragraphSeparator

/-- A blank inside a line: a space or a tab. -/
def isBlank (c : Char) : Bool := c == ' ' || c == '\t'

def isBlankZ : Option Char → Bool
  | none => true
  | some c => isBlank c || isBreak c

def isBreakZ : Option Char → Bool
  | none => true
  | some c => isBreak c

/-- A character of an anchor name, a directive name or a tag handle: an ASCII letter or digit,
`_` or `-`. -/
def isWordChar (c : Char) : Bool :=
  c.isAlphanum || c == '_' || c == '-'

/-- A character of a tag: a word character or one of `;/?:@&=+$.%!~*'()`; inside `!<...>` and
in a `%TAG` prefix also `,`, `[` and `]`. -/
def isUriChar (verbatim : Bool) (c : Char) : Bool :=
  isWordChar c || ";/?:@&=+$.%!~*'()".contains c || (verbatim && ",[]".contains c)

def hexValue (c : Char) : Option Nat :=
  if c.isDigit then some (c.toNat - '0'.toNat)
  else if 'a' ≤ c && c ≤ 'f' then some (c.toNat - 'a'.toNat + 10)
  else if 'A' ≤ c && c ≤ 'F' then some (c.toNat - 'A'.toNat + 10)
  else none

def isAllowed (c : Char) : Bool :=
  let v := c.toNat
  v == 0x09 || v == 0x0A || v == 0x0D || (0x20 ≤ v && v ≤ 0x7E) || v == 0x85 ||
    (0xA0 ≤ v && v ≤ 0xD7FF) || (0xE000 ≤ v && v ≤ 0xFFFD) || 0x10000 ≤ v

end Heartbeat.Yaml
