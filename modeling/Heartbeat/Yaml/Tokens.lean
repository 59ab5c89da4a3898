import Heartbeat.Yaml.Scalar

/-!
# Cutting a YAML text into tokens

`tokenize` reads the whole text, one token at a time. Before each token the scanner skips
blanks, comments and breaks, gives up the pending keys that went stale, and closes the block
collections indented deeper than the token's column. The first character then tells the token:

* at the start of a line, `%` starts a directive and `---` or `...` a document marker;
* `[`, `{`, `]`, `}`, `,` are flow indicators;
* `-`, `?` and `:` followed by a blank (or, inside a flow collection, `?` and `:` anywhere) are
  the entry, key and value indicators; a `-` or `?` that starts a block collection opens it;
* `*`, `&`, `!` start an alias, an anchor, a tag; `|` and `>` a block scalar (outside flow
  collections); `'` and `"` a quoted scalar;
* any other character that may start a plain scalar starts one; the rest are errors.

When a `:` follows a pending key, the `key` token is put back in front of the key, and in the
block context a block mapping opens at the key's column if that is deeper than the current
indentation. A `:` with no pending key in the block context stands for a key written with `?`
before it, or is an error where no key may start.

* `fetchNextToken`, `tokenize`.
-/

namespace Heartbeat.Yaml

open Scanner

/-- The last token: closes every block collection. -/
def fetchStreamEnd (s : Scanner) : ScanResult Scanner := do
  let s := unrollIndent s (-1)
  let s ← removeSimpleKey s
  pure ({ s with simpleKeyAllowed := false }.push .streamEnd)

def fetchDirective (s : Scanner) : ScanResult Scanner := do
  let s := unrollIndent s (-1)
  let s ← removeSimpleKey s
  let (t, s) ← scanDirective { s with simpleKeyAllowed := false }
  pure (s.push t)

def fetchDocumentIndicator (s : Scanner) (t : Token) : ScanResult Scanner := do
  let s := unrollIndent s (-1)
  let s ← removeSimpleKey s
  pure ({ s with simpleKeyAllowed := false }.skipN 3 |>.push t)

/-- `[` or `{`: may be a key, and a key may follow. -/
def fetchFlowCollectionStart (s : Scanner) (t : Token) : ScanResult Scanner := do
  let s ← saveSimpleKey s
  let s := increaseFlowLevel s
  pure ({ s with simpleKeyAllowed := true }.skip.push t)

def fetchFlowCollectionEnd (s : Scanner) (t : Token) : ScanResult Scanner := do
  let s ← removeSimpleKey s
  let s := decreaseFlowLevel s
  pure ({ s with simpleKeyAllowed := false }.skip.push t)

def fetchFlowEntry (s : Scanner) : ScanResult Scanner := do
  let s ← removeSimpleKey s
  pure ({ s with simpleKeyAllowed := true }.skip.push .flowEntry)

/-- `-` before a block sequence entry; opens the sequence at its column. -/
def fetchBlockEntry (s : Scanner) : ScanResult Scanner := do
  let s ← if s.flowLevel == 0 then
      if !s.simpleKeyAllowed then
        throw "block sequence entries are not allowed in this context"
      else pure (rollIndent s s.mark.column none .blockSequenceStart)
    else pure s
  let s ← removeSimpleKey s
  pure ({ s with simpleKeyAllowed := true }.skip.push .blockEntry)

/-- `?` before a key; in the block context opens a mapping at its column. -/
def fetchKey (s : Scanner) : ScanResult Scanner := do
  let s ← if s.flowLevel == 0 then
      if !s.simpleKeyAllowed then throw "mapping keys are not allowed in this context"
      else pure (rollIndent s s.mark.column none .blockMappingStart)
    else pure s
  let s ← removeSimpleKey s
  pure ({ s with simpleKeyAllowed := s.flowLevel == 0 }.skip.push .key)

/-- `:` before a value: turns the pending key, if any, into a key. -/
def fetchValue (s : Scanner) : ScanResult Scanner := do
  let k := s.currentKey
  let s ←
    if k.possible then
      let s := s.insertAt k.tokenNumber .key
      let s := rollIndent s k.mark.column (some k.tokenNumber) .blockMappingStart
      pure { s.setCurrentKey { k with possible := false } with simpleKeyAllowed := false }
    else if s.flowLevel == 0 then
      if !s.simpleKeyAllowed then throw "mapping values are not allowed in this context"
      else
        let s := rollIndent s s.mark.column none .blockMappingStart
        pure { s with simpleKeyAllowed := true }
    else pure { s with simpleKeyAllowed := false }
  pure (s.skip.push .value)

/-- An alias or an anchor: may be a key. -/
def fetchAnchor (s : Scanner) (isAlias : Bool) : ScanResult Scanner := do
  let s ← saveSimpleKey s
  let (t, s) ← scanAnchor isAlias { s with simpleKeyAllowed := false }
  pure (s.push t)

/-- A tag: may start a key. -/
def fetchTag (s : Scanner) : ScanResult Scanner := do
  let s ← saveSimpleKey s
  let (t, s) ← scanTag { s with simpleKeyAllowed := false }
  pure (s.push t)

/-- A block scalar: never a key, and a key may follow it. -/
def fetchBlockScalar (s : Scanner) (literal : Bool) : ScanResult Scanner := do
  let s ← removeSimpleKey s
  let (t, s) ← scanBlockScalar literal { s with simpleKeyAllowed := true }
  pure (s.push t)

/-- A quoted scalar: may be a key. -/
def fetchFlowScalar (s : Scanner) (single : Bool) : ScanResult Scanner := do
  let s ← saveSimpleKey s
  let (t, s) ← scanFlowScalar single { s with simpleKeyAllowed := false }
  pure (s.push t)

/-- A plain scalar: may be a key; a key may follow it when it ended after a line break. -/
def fetchPlainScalar (s : Scanner) : ScanResult Scanner := do
  let s ← saveSimpleKey s
  let (t, broke, s) ← scanPlainScalar { s with simpleKeyAllowed := false }
  pure ({ s with simpleKeyAllowed := broke }.push t)

def startsPlain (flow : Bool) (c : Char) (next : Option Char) : Bool :=
  !(isBlankZ (some c) || "-?:,[]\x7b\x7d#&*!|>'\"%@".contains c || c == backquote) ||
    (c == '-' && !(next.any isBlank)) ||
    (!flow && (c == '?' || c == ':') && !isBlankZ next)

def fetchNextToken (s : Scanner) : ScanResult Scanner := do
  let s := scanToNextToken s
  let s ← staleSimpleKeys s
  let s := unrollIndent s s.mark.column
  match s.peek with
  | none => fetchStreamEnd s
  | some c =>
    let next := s.peekAt 1
    let flow := s.flowLevel > 0
    if s.mark.column == 0 && c == '%' then fetchDirective s
    else if s.atDocumentMarker && c == '-' then fetchDocumentIndicator s .documentStart
    else if s.atDocumentMarker && c == '.' then fetchDocumentIndicator s .documentEnd
    else if c == '[' then fetchFlowCollectionStart s .flowSequenceStart
    else if c == '{' then fetchFlowCollectionStart s .flowMappingStart
    else if c == ']' then fetchFlowCollectionEnd s .flowSequenceEnd
    else if c == '}' then fetchFlowCollectionEnd s .flowMappingEnd
    else if c == ',' then fetchFlowEntry s
    else if c == '-' && isBlankZ next then fetchBlockEntry s
    else if c == '?' && (flow || isBlankZ next) then fetchKey s
    else if c == ':' && (flow || isBlankZ next) then fetchValue s
    else if c == '*' then fetchAnchor s true
    else if c == '&' then fetchAnchor s false
    else if c == '!' then fetchTag s
    else if c == '|' && !flow then fetchBlockScalar s true
    else if c == '>' && !flow then fetchBlockScalar s false
    else if c == '\'' then fetchFlowScalar s true
    else if c == '"' then fetchFlowScalar s false
    else if startsPlain flow c next then fetchPlainScalar s
    else throw "while scanning for the next token: found character that cannot start any token"

def Scanner.finished (s : Scanner) : Bool := s.tokens.back? == some .streamEnd

/-- The tokens of a whole text, or the first error. A text may not hold characters outside the
allowed set; a byte order mark at its very start is dropped. -/
def tokenize (text : String) : ScanResult (List Token) :=
  let cs := match text.toList with
    | c :: rest => if c == byteOrderMark then rest else c :: rest
    | [] => []
  if !cs.all isAllowed then .error "control characters are not allowed"
  else
    let rec go : Nat → Scanner → ScanResult (List Token)
      | 0, _ => .error "the text does not end"
      | fuel + 1, s =>
        if s.finished then .ok s.tokens.toList
        else
          match fetchNextToken s with
          | .error e => .error e
          | .ok s => go fuel s
    go (cs.length + 2) (Scanner.start cs)

end Heartbeat.Yaml
