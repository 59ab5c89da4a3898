import Heartbeat.Yaml.Token

/-!
# The state of the YAML scanner

The scanner reads a text once, left to right, and keeps:

* the text left and its position (byte offset, line and column);
* the tokens so far;
* the flow level (how many flow collections are open);
* the indentation of the innermost block collection and those around it (`-1` outside any);
* whether a simple key may start here, and for each flow level the simple key that may be
  pending: a node that becomes a mapping key when a `:` follows it on its line, within 1024
  bytes. A pending key is *required* when it stands at the indentation of a block mapping.

A key is only known to be one when its `:` is read; the `key` token (and, when a block mapping
starts there, the `blockMappingStart` token) is then put back where the key began, which is
why a pending key keeps the number of tokens before it.

* `Mark`, `SimpleKey`, `Scanner`;
* `Scanner.skip`, `Scanner.skipLine`, `Scanner.readLine` : moving on;
* `saveSimpleKey`, `removeSimpleKey`, `staleSimpleKeys`, `rollIndent`, `unrollIndent`;
* `scanToNextToken`.
-/

namespace Heartbeat.Yaml

/-- A position in the text: byte offset, line and column (both from zero). -/
structure Mark where
  index : Nat
  line : Nat
  column : Nat
  deriving DecidableEq, Repr

structure SimpleKey where
  possible : Bool
  required : Bool
  /-- The number of tokens before it. -/
  tokenNumber : Nat
  mark : Mark
  deriving DecidableEq, Repr

def SimpleKey.none : SimpleKey := ⟨false, false, 0, ⟨0, 0, 0⟩⟩

structure Scanner where
  rest : List Char
  mark : Mark
  tokens : Array Token
  flowLevel : Nat
  indent : Int
  /-- The indentations of the enclosing block collections, innermost first. -/
  indents : List Int
  simpleKeyAllowed : Bool
  /-- The pending key of each flow level, innermost first; never empty. -/
  simpleKeys : List SimpleKey
  deriving Repr

abbrev ScanResult (α : Type) := Except String α

namespace Scanner

/-- The scanner at the start of a text, the stream-start token produced. -/
def start (text : List Char) : Scanner :=
  ⟨text, ⟨0, 0, 0⟩, #[.streamStart], 0, -1, [], true, [SimpleKey.none]⟩

def peek (s : Scanner) : Option Char := s.rest.head?

def peekAt (s : Scanner) (i : Nat) : Option Char := s.rest[i]?

def sees (s : Scanner) (c : Char) : Bool := s.rest.head? == some c

def seesAt (s : Scanner) (i : Nat) (c : Char) : Bool := s.rest[i]? == some c

/-- Moves past one character that is not a line break. -/
def skip (s : Scanner) : Scanner :=
  match s.rest with
  | [] => s
  | c :: cs =>
    { s with rest := cs, mark := ⟨s.mark.index + c.utf8Size, s.mark.line, s.mark.column + 1⟩ }

def skipN (s : Scanner) : Nat → Scanner
  | 0 => s
  | n + 1 => s.skip.skipN n

/-- Moves past a line break; a carriage return and a line feed together are one. -/
def skipLine (s : Scanner) : Scanner :=
  match s.rest with
  | '\r' :: '\n' :: cs => { s with rest := cs, mark := ⟨s.mark.index + 2, s.mark.line + 1, 0⟩ }
  | c :: cs =>
    if isBreak c then
      { s with rest := cs, mark := ⟨s.mark.index + c.utf8Size, s.mark.line + 1, 0⟩ }
    else s
  | [] => s

/-- Moves past a line break and gives it as it stands in a scalar: the line separators as
themselves, every other break as a line feed. Nothing at the end of the text. -/
def readLine (s : Scanner) : String × Scanner :=
  match s.peek with
  | some c =>
    if c == lineSeparator || c == paragraphSeparator then (String.singleton c, s.skipLine)
    else if isBreak c then ("\n", s.skipLine)
    else ("", s)
  | none => ("", s)

def skipWhile (p : Char → Bool) (s : Scanner) : Scanner :=
  go s.rest.length s
where
  /-- At most `fuel` characters. -/
  go : Nat → Scanner → Scanner
    | 0, s => s
    | fuel + 1, s =>
      match s.peek with
      | some c => if p c then go fuel s.skip else s
      | none => s

def readWhile (p : Char → Bool) (acc : String) (s : Scanner) : String × Scanner :=
  go s.rest.length acc s
where
  /-- At most `fuel` characters. -/
  go : Nat → String → Scanner → String × Scanner
    | 0, acc, s => (acc, s)
    | fuel + 1, acc, s =>
      match s.peek with
      | some c => if p c then go fuel (acc.push c) s.skip else (acc, s)
      | none => (acc, s)

/-- Whether a document marker (`---` or `...` followed by a blank, a break or the end) stands
at the start of a line. -/
def atDocumentMarker (s : Scanner) : Bool :=
  s.mark.column == 0 &&
    ((s.seesAt 0 '-' && s.seesAt 1 '-' && s.seesAt 2 '-') ||
      (s.seesAt 0 '.' && s.seesAt 1 '.' && s.seesAt 2 '.')) &&
    isBlankZ (s.peekAt 3)

def push (s : Scanner) (t : Token) : Scanner := { s with tokens := s.tokens.push t }

/-- Puts a token back at position `n` among the tokens so far. -/
def insertAt (s : Scanner) (n : Nat) (t : Token) : Scanner :=
  { s with tokens := (s.tokens.extract 0 n).push t ++ s.tokens.extract n s.tokens.size }

def currentKey (s : Scanner) : SimpleKey := s.simpleKeys.head?.getD SimpleKey.none

def setCurrentKey (s : Scanner) (k : SimpleKey) : Scanner :=
  match s.simpleKeys with
  | [] => { s with simpleKeys := [k] }
  | _ :: ks => { s with simpleKeys := k :: ks }

end Scanner

open Scanner

/-- Drops the pending key of the current flow level; an error when it was required. -/
def removeSimpleKey (s : Scanner) : ScanResult Scanner :=
  let k := s.currentKey
  if k.possible && k.required then .error "while scanning a simple key: could not find expected ':'"
  else .ok (s.setCurrentKey { k with possible := false })

/-- Notes that a key may start here, when one may. -/
def saveSimpleKey (s : Scanner) : ScanResult Scanner :=
  if s.simpleKeyAllowed then
    let required := s.flowLevel == 0 && s.indent == (s.mark.column : Int)
    (removeSimpleKey s).map fun s =>
      s.setCurrentKey ⟨true, required, s.tokens.size, s.mark⟩
  else .ok s

/-- Gives up the pending keys that can no longer be keys: those on an earlier line or more than
1024 bytes back. Giving up a required one is an error. -/
def staleSimpleKeys (s : Scanner) : ScanResult Scanner :=
  (s.simpleKeys.mapM fun (k : SimpleKey) =>
    if k.possible && (k.mark.line < s.mark.line || k.mark.index + 1024 < s.mark.index) then
      if k.required then (.error "while scanning a simple key: could not find expected ':'" :
        ScanResult SimpleKey)
      else .ok { k with possible := false }
    else .ok k).map fun ks => { s with simpleKeys := ks }

def increaseFlowLevel (s : Scanner) : Scanner :=
  { s with simpleKeys := SimpleKey.none :: s.simpleKeys, flowLevel := s.flowLevel + 1 }

def decreaseFlowLevel (s : Scanner) : Scanner :=
  if s.flowLevel > 0 then
    { s with flowLevel := s.flowLevel - 1, simpleKeys := s.simpleKeys.tail }
  else s

/-- In the block context, opens a block collection at `column` when that is deeper than the
current indentation: the token `t` goes at position `at?` among the tokens, or at the end. -/
def rollIndent (s : Scanner) (column : Nat) (at? : Option Nat) (t : Token) : Scanner :=
  if s.flowLevel == 0 && s.indent < (column : Int) then
    let s := { s with indents := s.indent :: s.indents, indent := column }
    match at? with
    | some n => s.insertAt n t
    | none => s.push t
  else s

/-- In the block context, closes the block collections indented deeper than `column`, each with
a `blockEnd` token. -/
def unrollIndent (s : Scanner) (column : Int) : Scanner :=
  if s.flowLevel == 0 then go s.tokens s.indent s.indents else s
where
  /-- Pops the indentations deeper than `column`. -/
  go (tokens : Array Token) (indent : Int) : List Int → Scanner
    | [] => { s with tokens := tokens, indent := indent, indents := [] }
    | i :: is =>
      if indent > column then go (tokens.push .blockEnd) i is
      else { s with tokens := tokens, indent := indent, indents := i :: is }

/-- Skips blanks, comments and line breaks up to the next token. A byte order mark at the start
of a line is skipped; a tab is skipped only inside a flow collection or where no simple key may
start (so never in the indentation of a block line). A line break in the block context lets a
simple key start. -/
def scanToNextToken (s : Scanner) : Scanner :=
  go (s.rest.length + 1) s
where
  /-- At most `fuel` lines. -/
  go : Nat → Scanner → Scanner
    | 0, s => s
    | fuel + 1, s =>
      let s := if s.mark.column == 0 && s.sees byteOrderMark then s.skip else s
      let s := skipWhile (fun c => c == ' ' || (c == '\t' && (s.flowLevel > 0 || !s.simpleKeyAllowed))) s
      let s := if s.sees '#' then skipWhile (fun c => !isBreak c) s else s
      match s.peek with
      | some c =>
        if isBreak c then
          let s := s.skipLine
          go fuel (if s.flowLevel == 0 then { s with simpleKeyAllowed := true } else s)
        else s
      | none => s

end Heartbeat.Yaml
