import Heartbeat.Yaml.Scanner

/-!
# Scanning YAML scalars

How the text of each kind of scalar is read.

* A plain scalar runs over blanks and line breaks while its lines stay indented deeper than the
  enclosing block collection; it stops at `: ` (or `:` at the end), at ` #`, at a document
  marker, and in a flow collection at `,[]{}`. Inside a flow collection a `:` followed by one of
  `,?[]{}` is an error.
* A quoted scalar runs to its closing quote; a document marker or the end of the text before
  it is an error. In a double-quoted scalar a `\` escapes a character or, before a line break,
  joins the lines without a blank.
* A block scalar (`|` literal, `>` folded) has a header with an optional chomping indicator
  (`-` strip, `+` keep) and an optional indentation indicator `1`-`9`, in either order and each
  at most once, then only blanks and a comment on its line. Its indentation is given, or is that
  of its first non-empty line (at least one more than the enclosing collection's, and at least
  one); a tab where an indentation space is expected is an error.

Line folding, the same in quoted, plain and folded scalars: blanks around a line break are
dropped; a single line feed becomes a space, and each further empty line a line feed; a line
separator or paragraph separator is kept as it is, and so are the breaks after it.

* `scanPlainScalar`, `scanFlowScalar`, `scanBlockScalar`;
* `scanAnchor`, `scanTag`, `scanDirective`.
-/

namespace Heartbeat.Yaml

open Scanner

/-- Joins the blanks and breaks between two pieces of a scalar: with no line break the blanks
`spaces` stay; after a line feed, a lone break is a space and further breaks stay; after a line
separator every break stays. -/
def foldJoin (text : String) (leadingBlanks : Bool) (leadingBreak trailing spaces : String) :
    String :=
  if leadingBlanks then
    if leadingBreak.front == '\n' && !leadingBreak.isEmpty then
      if trailing.isEmpty then text.push ' ' else text ++ trailing
    else text ++ leadingBreak ++ trailing
  else text ++ spaces

/-- The blanks and line breaks after a piece of a quoted or plain scalar: the blanks before the
first break (`spaces`), the first break, and the breaks after it. `tabGuard` is the column a
tab after a break must reach (an error before it), for plain scalars. -/
structure Gap where
  leadingBlanks : Bool
  leadingBreak : String
  trailing : String
  spaces : String

def scanGap (tabGuard : Option Int) (g : Gap) (s : Scanner) : ScanResult (Gap × Scanner) :=
  go (s.rest.length + 1) g s
where
  /-- At most `fuel` characters. -/
  go : Nat → Gap → Scanner → ScanResult (Gap × Scanner)
    | 0, g, s => .ok (g, s)
    | fuel + 1, g, s =>
      match s.peek with
      | some c =>
        if isBlank c then
          match tabGuard with
          | some indent =>
            if g.leadingBlanks && (s.mark.column : Int) < indent && c == '\t' then
              .error "while scanning a plain scalar: found a tab character that violates indentation"
            else if g.leadingBlanks then go fuel g s.skip
            else go fuel { g with spaces := g.spaces.push c } s.skip
          | none =>
            if g.leadingBlanks then go fuel g s.skip
            else go fuel { g with spaces := g.spaces.push c } s.skip
        else if isBreak c then
          let (b, s') := s.readLine
          if g.leadingBlanks then go fuel { g with trailing := g.trailing ++ b } s'
          else go fuel { g with spaces := "", leadingBreak := b, leadingBlanks := true } s'
        else .ok (g, s)
      | none => .ok (g, s)

def Gap.empty : Gap := ⟨false, "", "", ""⟩

/-- The text of the pieces of a plain scalar on one line, after the gap before them: characters
up to a blank, a break or the end, or up to an indicator that ends the scalar. -/
def plainPiece (flow : Bool) (text : String) (g : Gap) (s : Scanner) :
    ScanResult (String × Gap × Scanner) :=
  go (s.rest.length + 1) text g s
where
  /-- At most `fuel` characters. -/
  go : Nat → String → Gap → Scanner → ScanResult (String × Gap × Scanner)
    | 0, text, g, s => .ok (text, g, s)
    | fuel + 1, text, g, s =>
      match s.peek with
      | none => .ok (text, g, s)
      | some c =>
        if isBlank c || isBreak c then .ok (text, g, s)
        else if flow && c == ':' && (s.peekAt 1).any (",?[]\x7b\x7d".contains ·) then
          .error "while scanning a plain scalar: found unexpected ':'"
        else if (c == ':' && isBlankZ (s.peekAt 1)) || (flow && ",[]\x7b\x7d".contains c) then
          .ok (text, g, s)
        else
          let text := foldJoin text g.leadingBlanks g.leadingBreak g.trailing g.spaces
          go fuel (text.push c) Gap.empty s.skip

/-- Scans a plain scalar. `indent` is the indentation of the enclosing block collection; the
flag tells whether the scalar ended after a line break (so a simple key may follow). -/
def scanPlainScalar (s : Scanner) : ScanResult (Token × Bool × Scanner) :=
  let indent : Int := s.indent + 1
  let flow := s.flowLevel > 0
  let rec go : Nat → String → Gap → Scanner → ScanResult (String × Gap × Scanner)
    | 0, text, g, s => .ok (text, g, s)
    | fuel + 1, text, g, s =>
      if s.atDocumentMarker || s.sees '#' then .ok (text, g, s)
      else
        match plainPiece flow text g s with
        | .error e => .error e
        | .ok (text, g, s) =>
          if !(s.peek.any fun c => isBlank c || isBreak c) then .ok (text, g, s)
          else
            match scanGap (some indent) g s with
            | .error e => .error e
            | .ok (g, s) =>
              if !flow && (s.mark.column : Int) < indent then .ok (text, g, s)
              else go fuel text g s
  match go (s.rest.length + 1) "" Gap.empty s with
  | .error e => .error e
  | .ok (text, g, s) => .ok (.scalar text .plain, g.leadingBlanks, s)

def escapeChar? (c : Char) : Option Char :=
  match c with
  | '0' => some (Char.ofNat 0)
  | 'a' => some (Char.ofNat 7)
  | 'b' => some (Char.ofNat 8)
  | 't' => some '\t'
  | '\t' => some '\t'
  | 'n' => some '\n'
  | 'v' => some (Char.ofNat 11)
  | 'f' => some (Char.ofNat 12)
  | 'r' => some '\r'
  | 'e' => some (Char.ofNat 27)
  | ' ' => some ' '
  | '"' => some '"'
  | '/' => some '/'
  | '\'' => some '\''
  | '\\' => some '\\'
  | 'N' => some nextLine
  | '_' => some (Char.ofNat 0xA0)
  | 'L' => some lineSeparator
  | 'P' => some paragraphSeparator
  | _ => none

def hexDigits? : Nat → List Char → Option Nat
  | 0, _ => some 0
  | n + 1, c :: cs => do
    let d ← hexValue c
    let v ← hexDigits? n cs
    pure (d * 16 ^ n + v)
  | _ + 1, [] => none

def readEscape (s : Scanner) : ScanResult (Char × Scanner) :=
  match s.peekAt 1 with
  | none => .error "while parsing a quoted scalar: found unknown escape character"
  | some e =>
    let width := if e == 'x' then 2 else if e == 'u' then 4 else if e == 'U' then 8 else 0
    if width == 0 then
      match escapeChar? e with
      | some c => .ok (c, s.skipN 2)
      | none => .error "while parsing a quoted scalar: found unknown escape character"
    else
      match hexDigits? width (s.rest.drop 2) with
      | none => .error "while parsing a quoted scalar: did not find expected hexdecimal number"
      | some v =>
        if (0xD800 ≤ v && v ≤ 0xDFFF) || v > 0x10FFFF then
          .error "while parsing a quoted scalar: found invalid Unicode character escape code"
        else .ok (Char.ofNat v, s.skipN (2 + width))

/-- The characters of a quoted scalar up to a blank, a break, the end or the closing quote;
the flag tells that an escaped line break ended them. -/
def quotedPiece (single : Bool) (text : String) (s : Scanner) :
    ScanResult (String × Bool × Scanner) :=
  go (s.rest.length + 1) text s
where
  /-- At most `fuel` characters. -/
  go : Nat → String → Scanner → ScanResult (String × Bool × Scanner)
    | 0, text, s => .ok (text, false, s)
    | fuel + 1, text, s =>
      match s.peek with
      | none => .ok (text, false, s)
      | some c =>
        if isBlank c || isBreak c then .ok (text, false, s)
        else if single && c == '\'' && s.seesAt 1 '\'' then go fuel (text.push '\'') (s.skipN 2)
        else if c == (if single then '\'' else '"') then .ok (text, false, s)
        else if !single && c == '\\' && (s.peekAt 1).any isBreak then
          .ok (text, true, s.skip.skipLine)
        else if !single && c == '\\' then
          match readEscape s with
          | .error e => .error e
          | .ok (e, s) => go fuel (text.push e) s
        else go fuel (text.push c) s.skip

def scanFlowScalar (single : Bool) (s : Scanner) : ScanResult (Token × Scanner) :=
  let quote := if single then '\'' else '"'
  let rec go : Nat → String → Scanner → ScanResult (String × Scanner)
    | 0, _, _ => .error "while scanning a quoted scalar: found unexpected end of stream"
    | fuel + 1, text, s =>
      if s.atDocumentMarker then
        .error "while scanning a quoted scalar: found unexpected document indicator"
      else if s.peek.isNone then
        .error "while scanning a quoted scalar: found unexpected end of stream"
      else
        match quotedPiece single text s with
        | .error e => .error e
        | .ok (text, escapedBreak, s) =>
          if s.sees quote then .ok (text, s)
          else
            match scanGap none { Gap.empty with leadingBlanks := escapedBreak } s with
            | .error e => .error e
            | .ok (g, s) =>
              go fuel (foldJoin text g.leadingBlanks g.leadingBreak g.trailing g.spaces) s
  match go (s.rest.length + 1) "" s.skip with
  | .error e => .error e
  | .ok (text, s) =>
    .ok (.scalar text (if single then .singleQuoted else .doubleQuoted), s.skip)

/-- The indentation spaces and empty lines before a line of a block scalar: the breaks read, and
the indentation, found from the deepest of these lines and the first non-empty one when it is
not yet known (`0`). -/
def blockBreaks (parentIndent : Int) (indent : Nat) (s : Scanner) :
    ScanResult (Nat × String × Scanner) :=
  go (s.rest.length + 1) 0 "" s
where
  /-- Skips the spaces of the indentation, up to the indentation when it is known. -/
  skipIndent (s : Scanner) : Scanner :=
    let rec spaces : Nat → Scanner → Scanner
      | 0, s => s
      | fuel + 1, s =>
        if s.sees ' ' && (indent == 0 || s.mark.column < indent) then spaces fuel s.skip else s
    spaces s.rest.length s
  /-- At most `fuel` lines. -/
  go : Nat → Nat → String → Scanner → ScanResult (Nat × String × Scanner)
    | 0, _, breaks, s => .ok (indent, breaks, s)
    | fuel + 1, maxIndent, breaks, s =>
      let s := skipIndent s
      let maxIndent := max maxIndent s.mark.column
      if (indent == 0 || s.mark.column < indent) && s.sees '\t' then
        .error "while scanning a block scalar: found a tab character where an indentation space is expected"
      else if s.peek.any isBreak then
        let (b, s) := s.readLine
        go fuel maxIndent (breaks ++ b) s
      else
        let found : Int := max (max (maxIndent : Int) (parentIndent + 1)) 1
        .ok (if indent == 0 then found.toNat else indent, breaks, s)

/-- The lines of a block scalar at its indentation: the text so far, the line break after the
last line and the empty lines after it. -/
def blockLines (literal : Bool) (parentIndent : Int) (indent : Nat) (text leadingBreak
    trailing : String) (leadingBlank : Bool) (s : Scanner) :
    ScanResult (String × String × String × Scanner) :=
  go (s.rest.length + 1) text leadingBreak trailing leadingBlank s
where
  /-- At most `fuel` lines. -/
  go : Nat → String → String → String → Bool → Scanner →
      ScanResult (String × String × String × Scanner)
    | 0, text, leadingBreak, trailing, _, s => .ok (text, leadingBreak, trailing, s)
    | fuel + 1, text, leadingBreak, trailing, leadingBlank, s =>
      if s.mark.column == indent && s.peek.isSome then
        let trailingBlank := s.peek.any isBlank
        let text :=
          if !literal && leadingBreak.front == '\n' && !leadingBreak.isEmpty && !leadingBlank &&
              !trailingBlank then
            (if trailing.isEmpty then text.push ' ' else text)
          else text ++ leadingBreak
        let text := text ++ trailing
        let leadingBlank := s.peek.any isBlank
        let (text, s) := readWhile (fun c => !isBreak c) text s
        let (leadingBreak, s) := s.readLine
        match blockBreaks parentIndent indent s with
        | .error e => .error e
        | .ok (_, trailing, s) => go fuel text leadingBreak trailing leadingBlank s
      else .ok (text, leadingBreak, trailing, s)

inductive Chomping where
  | strip
  | clip
  | keep
  deriving DecidableEq, Repr

/-- Reads the header of a block scalar after its indicator: the chomping and the indentation
indicator (`0` when none), each at most once and in either order. -/
def blockHeader (s : Scanner) : ScanResult (Chomping × Nat × Scanner) :=
  let chompOf (c : Char) : Option Chomping :=
    if c == '+' then some .keep else if c == '-' then some .strip else none
  let digitOf (c : Char) : Option Nat :=
    if c.isDigit then some (c.toNat - '0'.toNat) else none
  match s.peek with
  | some c =>
    match chompOf c, digitOf c with
    | some ch, _ =>
      let s := s.skip
      match s.peek.bind digitOf with
      | some 0 => .error "while scanning a block scalar: found an indentation indicator equal to 0"
      | some d => .ok (ch, d, s.skip)
      | none => .ok (ch, 0, s)
    | none, some 0 =>
      .error "while scanning a block scalar: found an indentation indicator equal to 0"
    | none, some d =>
      let s := s.skip
      match s.peek.bind chompOf with
      | some ch => .ok (ch, d, s.skip)
      | none => .ok (.clip, d, s)
    | none, none => .ok (.clip, 0, s)
  | none => .ok (.clip, 0, s)

def scanBlockScalar (literal : Bool) (s : Scanner) : ScanResult (Token × Scanner) := do
  let (chomping, increment, s) ← blockHeader s.skip
  let s := skipWhile isBlank s
  let s := if s.sees '#' then skipWhile (fun c => !isBreak c) s else s
  if !isBreakZ s.peek then
    throw "while scanning a block scalar: did not find expected comment or line break"
  let s := if s.peek.any isBreak then s.skipLine else s
  let given : Nat :=
    if increment == 0 then 0
    else if s.indent ≥ 0 then s.indent.toNat + increment else increment
  let (indent, trailing, s) ← blockBreaks s.indent given s
  let (text, leadingBreak, trailing, s) ←
    blockLines literal s.indent indent "" "" trailing false s
  let text := if chomping != .strip then text ++ leadingBreak else text
  let text := if chomping == .keep then text ++ trailing else text
  pure (.scalar text (if literal then .literal else .folded), s)

/-- Scans an anchor (`&name`) or alias (`*name`) from its indicator: a name of word characters,
not empty, followed by a blank, a break, the end or one of `?:,]}%@` and the backquote. -/
def scanAnchor (isAlias : Bool) (s : Scanner) : ScanResult (Token × Scanner) :=
  let (name, s) := readWhile isWordChar "" s.skip
  let ends := isBlankZ s.peek || (s.peek.any fun c => "?:,]\x7d%@".contains c || c == backquote)
  if name.isEmpty || !ends then
    .error "while scanning an anchor: did not find expected alphabetic or numeric character"
  else .ok (if isAlias then .alias name else .anchor name, s)

/-- Reads `%xx` escapes of a tag: one UTF-8 encoded character, byte by byte. -/
def uriEscapes (s : Scanner) : ScanResult (List UInt8 × Scanner) :=
  let octet (s : Scanner) : Option Nat :=
    if s.sees '%' then hexDigits? 2 (s.rest.drop 1) else none
  match octet s with
  | none => .error "while parsing a tag: did not find URI escaped octet"
  | some lead =>
    let width := if lead < 0x80 then 1 else if lead / 32 == 6 then 2 else if lead / 16 == 14 then 3
      else if lead / 8 == 30 then 4 else 0
    if width == 0 then .error "while parsing a tag: found an incorrect leading UTF-8 octet"
    else
      let rec more : Nat → List UInt8 → Scanner → ScanResult (List UInt8 × Scanner)
        | 0, acc, s => .ok (acc, s)
        | n + 1, acc, s =>
          match octet s with
          | none => .error "while parsing a tag: did not find URI escaped octet"
          | some b =>
            if b / 64 != 2 then .error "while parsing a tag: found an incorrect trailing UTF-8 octet"
            else more n (acc ++ [b.toUInt8]) (s.skipN 3)
      more (width - 1) [lead.toUInt8] (s.skipN 3)

/-- Reads the characters of a tag as the bytes they spell: `%xx` escapes decoded, anything else
as its UTF-8 bytes. `head` is what is already read after a `!` that turned out not to start a
handle (`hasHead`); with no such `!`, an empty tag is an error. -/
def scanTagUri (verbatim : Bool) (hasHead : Bool) (head : List UInt8) (s : Scanner) :
    ScanResult (List UInt8 × Scanner) :=
  let rec go : Nat → List UInt8 → Bool → Scanner → ScanResult (List UInt8 × Bool × Scanner)
    | 0, acc, any, s => .ok (acc, any, s)
    | fuel + 1, acc, any, s =>
      match s.peek with
      | some c =>
        if !isUriChar verbatim c then .ok (acc, any, s)
        else if c == '%' then
          match uriEscapes s with
          | .error e => .error e
          | .ok (bytes, s) => go fuel (acc ++ bytes) true s
        else go fuel (acc ++ (String.singleton c).toUTF8.toList) true s.skip
      | none => .ok (acc, any, s)
  match go (s.rest.length + 1) head false s with
  | .error e => .error e
  | .ok (bytes, any, s) =>
    if !any && !hasHead then .error "while parsing a tag: did not find expected tag URI"
    else .ok (bytes, s)

def scanTagHandle (s : Scanner) : ScanResult (String × Scanner) :=
  if !s.sees '!' then .error "while scanning a tag: did not find expected '!'"
  else
    let (h, s) := readWhile isWordChar "!" s.skip
    if s.sees '!' then .ok (h.push '!', s.skip) else .ok (h, s)

/-- Scans a tag from its `!`: `!<uri>` (verbatim), `!handle!suffix`, `!suffix`, or `!` alone.
It must be followed by a blank, a break or the end, or inside a flow collection by `,`. -/
def scanTag (s : Scanner) : ScanResult (Token × Scanner) := do
  let (handle, suffix, s) ←
    if s.seesAt 1 '<' then do
      let (suffix, s) ← scanTagUri true false [] (s.skipN 2)
      if !s.sees '>' then throw "while scanning a tag: did not find the expected '>'"
      pure ("", suffix, s.skip)
    else do
      let (h, s) ← scanTagHandle s
      if h.length > 1 && h.back == '!' then
        let (suffix, s) ← scanTagUri false false [] s
        pure (h, suffix, s)
      else
        let head := (h.drop 1).toString.toUTF8.toList
        let (suffix, s) ← scanTagUri false true head s
        if suffix.isEmpty then pure ("", [33], s)
        else pure ("!", suffix, s)
  if !(isBlankZ s.peek || (s.flowLevel > 0 && s.sees ',')) then
    throw "while scanning a tag: did not find expected whitespace or line break"
  pure (.tag handle suffix, s)

def versionNumber (s : Scanner) : ScanResult (Nat × Scanner) :=
  let (ds, s) := readWhile Char.isDigit "" s
  if ds.isEmpty then .error "while scanning a %YAML directive: did not find expected version number"
  else if ds.length > 9 then .error "while scanning a %YAML directive: found extremely long version number"
  else .ok (ds.foldl (fun n d => 10 * n + (d.toNat - '0'.toNat)) 0, s)

/-- Scans a directive from its `%`: `%YAML major.minor` or `%TAG handle prefix`, then only
blanks and a comment up to the end of the line, whose break it takes. -/
def scanDirective (s : Scanner) : ScanResult (Token × Scanner) := do
  let (name, s) := readWhile isWordChar "" s.skip
  if name.isEmpty then throw "while scanning a directive: could not find expected directive name"
  if !isBlankZ s.peek then
    throw "while scanning a directive: found unexpected non-alphabetical character"
  let (t, s) ←
    if name == "YAML" then do
      let s := skipWhile isBlank s
      let (major, s) ← versionNumber s
      if !s.sees '.' then
        throw "while scanning a %YAML directive: did not find expected digit or '.' character"
      let (minor, s) ← versionNumber s.skip
      pure (Token.versionDirective major minor, s)
    else if name == "TAG" then do
      let s := skipWhile isBlank s
      let (handle, s) ← scanTagHandle s
      if handle.length > 1 && handle.back != '!' then
        throw "while parsing a tag directive: did not find expected '!'"
      if !s.peek.any isBlank then
        throw "while scanning a %TAG directive: did not find expected whitespace"
      let s := skipWhile isBlank s
      let (pre, s) ← scanTagUri true false [] s
      if !isBlankZ s.peek then
        throw "while scanning a %TAG directive: did not find expected whitespace or line break"
      pure (Token.tagDirective handle pre, s)
    else throw "while scanning a directive: found unknown directive name"
  let s := skipWhile isBlank s
  let s := if s.sees '#' then skipWhile (fun c => !isBreak c) s else s
  if !isBreakZ s.peek then
    throw "while scanning a directive: did not find expected comment or line break"
  pure (t, if s.peek.any isBreak then s.skipLine else s)

end Heartbeat.Yaml
