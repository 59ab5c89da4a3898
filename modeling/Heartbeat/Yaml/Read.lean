import Heartbeat.Yaml.Tokens

/-!
# Reading a YAML document

The tokens of a text are read by the grammar

```
stream        ::= STREAM-START document? (DOCUMENT-END* document)* DOCUMENT-END* STREAM-END
document      ::= block-node | DIRECTIVE* DOCUMENT-START block-node? DOCUMENT-END?
node          ::= ALIAS | properties content? | content
properties    ::= TAG ANCHOR? | ANCHOR TAG?
content       ::= block-sequence | block-mapping | flow-sequence | flow-mapping | SCALAR
block-seq     ::= BLOCK-SEQUENCE-START (BLOCK-ENTRY node?)* BLOCK-END
indentless    ::= (BLOCK-ENTRY node?)+           (a mapping's key or value only)
block-map     ::= BLOCK-MAPPING-START ((KEY node?)? (VALUE node?)?)* BLOCK-END
flow-seq      ::= FLOW-SEQUENCE-START (entry FLOW-ENTRY)* entry? FLOW-SEQUENCE-END
flow-map      ::= FLOW-MAPPING-START (entry FLOW-ENTRY)* entry? FLOW-MAPPING-END
entry         ::= node | KEY node? (VALUE node?)?
```

where a missing node is the empty plain scalar, and an entry of a flow sequence written with a
key is a mapping of that one pair. Block collections and block scalars only stand in block
context. A text must hold exactly one document.

Tags are resolved by their handle: `!` and `!!` stand for `!` and `tag:yaml.org,2002:` unless a
`%TAG` directive of the document says otherwise; any other handle needs a directive. A `%YAML`
directive must name version 1.1 or 1.2, and may be given once.

Anchors are numbered as a table of names is filled: a new anchor takes the number of names the
table holds, and replaces the number of a name defined before. So a redefined name and the next
new name can share a number; an alias stands for whatever node its number ends up naming when
the document is read to its end. An alias of a name not yet defined is an error.

* `Parser`, `parseNode`, `readDocument?`.
-/

namespace Heartbeat.Yaml

/-- The state of the reader: the tokens left, the anchor table (names to numbers), the nodes
each number was last given to (by the order anchors were met), the anchored nodes read so far,
and the tag handles of the document. -/
structure Parser where
  tokens : List Token
  anchors : List (String × Nat)
  targets : List (Nat × Nat)
  built : List (Nat × Node)
  serial : Nat
  handles : List (String × List UInt8)

abbrev ParseResult (α : Type) := Except String α

namespace Parser

def peek (p : Parser) : Token := p.tokens.headD .streamEnd

def next (p : Parser) : Parser := { p with tokens := p.tokens.tail }

/-- Defines an anchor for the node that starts now; gives the number its node is stored under
once read. -/
def define (p : Parser) (name : String) : Nat × Parser :=
  let id := p.anchors.length
  let others := p.anchors.filter fun e => e.1 != name
  let p' := { p with
    anchors := (name, id) :: others
    targets := (id, p.serial) :: p.targets
    serial := p.serial + 1 }
  (p.serial, p')

def store (p : Parser) (serial : Nat) (n : Node) : Parser :=
  { p with built := (serial, n) :: p.built }

/-- The anchored nodes by the numbers aliases use, each number at the node it was last given
to. -/
def anchored (p : Parser) : List (Nat × Node) :=
  (p.targets.map (·.1)).eraseDups.filterMap fun id =>
    (p.targets.lookup id).bind fun serial => (p.built.lookup serial).map (id, ·)

end Parser

def emptyScalar : Node := Node.empty

def hexByte (b : UInt8) : String :=
  let digit (n : Nat) : Char := if n < 10 then Char.ofNat (48 + n) else Char.ofNat (55 + n)
  String.ofList [digit (b.toNat / 16), digit (b.toNat % 16)]

/-- The text of a tag's bytes; bytes that are not UTF-8 are kept as `%xx` escapes, so such a
tag is never one of the core schema. -/
def tagText (bytes : List UInt8) : String :=
  match String.fromUTF8? ⟨bytes.toArray⟩ with
  | some t => t
  | none => String.join (bytes.map fun b =>
      if b < 0x80 then String.singleton (Char.ofNat b.toNat) else "%" ++ hexByte b)

/-- The properties before a node: its anchor and its tag (handle and suffix). -/
def properties (p : Parser) : Option String × Option (String × List UInt8) × Parser :=
  match p.peek with
  | .anchor a =>
    match p.next.peek with
    | .tag h s => (some a, some (h, s), p.next.next)
    | _ => (some a, none, p.next)
  | .tag h s =>
    match p.next.peek with
    | .anchor a => (some a, some (h, s), p.next.next)
    | _ => (none, some (h, s), p.next)
  | _ => (none, none, p)

def resolveTag (p : Parser) : Option (String × List UInt8) → ParseResult (Option String)
  | none => .ok none
  | some ("", suffix) => .ok (some (tagText suffix))
  | some (h, suffix) =>
    match p.handles.lookup h with
    | some pre => .ok (some (tagText (pre ++ suffix)))
    | none => .error "while parsing a node: found undefined tag handle"

def endsBlockMapEntry : Token → Bool
  | .key | .value | .blockEnd => true
  | _ => false

mutual

/-- Reads a node. `block` allows block collections; `indentless` allows a block sequence with
no start token (the value or key of a block mapping). -/
def parseNode : Nat → Bool → Bool → Parser → ParseResult (Node × Parser)
  | 0, _, _, _ => .error "the document nests too deeply"
  | fuel + 1, block, indentless, p =>
    match p.peek with
    | .alias name =>
      match p.anchors.lookup name with
      | some id => .ok (.alias id, p.next)
      | none => .error "found undefined alias"
    | _ =>
      let (anchor, tag, p) := properties p
      match resolveTag p tag with
      | .error e => .error e
      | .ok tag =>
        let hasProps := anchor.isSome || tag.isSome
        let (serial, p) := match anchor with
          | some a => let (n, p) := p.define a; (some n, p)
          | none => (none, p)
        let finish (r : Node × Parser) : Node × Parser :=
          match serial with
          | some n => (r.1, r.2.store n r.1)
          | none => r
        let empty : ParseResult (Node × Parser) :=
          if hasProps then .ok (finish (.scalar "" .plain tag, p))
          else .error "did not find expected node content"
        match p.peek with
        | .blockEntry =>
          if indentless then (indentlessSequence fuel [] p).map finish else empty
        | .scalar text style => .ok (finish (.scalar text style tag, p.next))
        | .flowSequenceStart => (flowSequence fuel true [] p.next).map finish
        | .flowMappingStart => (flowMapping fuel true [] p.next).map finish
        | .blockSequenceStart =>
          if block then (blockSequence fuel [] p.next).map finish else empty
        | .blockMappingStart =>
          if block then (blockMapping fuel [] p.next).map finish else empty
        | _ => empty

def blockSequence : Nat → List Node → Parser → ParseResult (Node × Parser)
  | 0, _, _ => .error "the document nests too deeply"
  | fuel + 1, acc, p =>
    match p.peek with
    | .blockEntry =>
      let p := p.next
      match p.peek with
      | .blockEntry => blockSequence fuel (acc ++ [emptyScalar]) p
      | .blockEnd => blockSequence fuel (acc ++ [emptyScalar]) p
      | _ =>
        match parseNode fuel true false p with
        | .error e => .error e
        | .ok (n, p) => blockSequence fuel (acc ++ [n]) p
    | .blockEnd => .ok (.seq acc, p.next)
    | _ => .error "while parsing a block collection: did not find expected '-' indicator"

/-- The entries of a sequence written at the indentation of the mapping it is a key or value
of, from its first entry; it ends at the first token that is no entry. -/
def indentlessSequence : Nat → List Node → Parser → ParseResult (Node × Parser)
  | 0, _, _ => .error "the document nests too deeply"
  | fuel + 1, acc, p =>
    match p.peek with
    | .blockEntry =>
      let p := p.next
      if p.peek == .blockEntry || endsBlockMapEntry p.peek then
        indentlessSequence fuel (acc ++ [emptyScalar]) p
      else
        match parseNode fuel true false p with
        | .error e => .error e
        | .ok (n, p) => indentlessSequence fuel (acc ++ [n]) p
    | _ => .ok (.seq acc, p)

def blockMapping : Nat → List (Node × Node) → Parser → ParseResult (Node × Parser)
  | 0, _, _ => .error "the document nests too deeply"
  | fuel + 1, acc, p =>
    match p.peek with
    | .key =>
      let p := p.next
      let key : ParseResult (Node × Parser) := if endsBlockMapEntry p.peek then .ok (emptyScalar, p)
        else parseNode fuel true true p
      match key with
      | .error e => .error e
      | .ok (k, p) =>
        match p.peek with
        | .value =>
          let p := p.next
          let value : ParseResult (Node × Parser) := if endsBlockMapEntry p.peek then .ok (emptyScalar, p)
            else parseNode fuel true true p
          match value with
          | .error e => .error e
          | .ok (v, p) => blockMapping fuel (acc ++ [(k, v)]) p
        | _ => blockMapping fuel (acc ++ [(k, emptyScalar)]) p
    | .blockEnd => .ok (.map acc, p.next)
    | _ => .error "while parsing a block mapping: did not find expected key"

/-- The entries of a flow sequence, after its start token (`first` before the first entry). -/
def flowSequence : Nat → Bool → List Node → Parser → ParseResult (Node × Parser)
  | 0, _, _, _ => .error "the document nests too deeply"
  | fuel + 1, first, acc, p =>
    match p.peek with
    | .flowSequenceEnd => .ok (.seq acc, p.next)
    | t =>
      let p := if !first && t == .flowEntry then some p.next else if first then some p else none
      match p with
      | none => .error "while parsing a flow sequence: did not find expected ',' or ']'"
      | some p =>
        match p.peek with
        | .key =>
          let p := p.next
          let key : ParseResult (Node × Parser) := match p.peek with
            | .value | .flowEntry | .flowSequenceEnd => .ok (emptyScalar, p.next)
            | _ => parseNode fuel false false p
          match key with
          | .error e => .error e
          | .ok (k, p) =>
            let value : ParseResult (Node × Parser) := match p.peek with
              | .value =>
                let p := p.next
                match p.peek with
                | .flowEntry | .flowSequenceEnd => .ok (emptyScalar, p)
                | _ => parseNode fuel false false p
              | _ => .ok (emptyScalar, p)
            match value with
            | .error e => .error e
            | .ok (v, p) => flowSequence fuel false (acc ++ [.map [(k, v)]]) p
        | .flowSequenceEnd => .ok (.seq acc, p.next)
        | _ =>
          match parseNode fuel false false p with
          | .error e => .error e
          | .ok (n, p) => flowSequence fuel false (acc ++ [n]) p

def flowMapping : Nat → Bool → List (Node × Node) → Parser → ParseResult (Node × Parser)
  | 0, _, _, _ => .error "the document nests too deeply"
  | fuel + 1, first, acc, p =>
    match p.peek with
    | .flowMappingEnd => .ok (.map acc, p.next)
    | t =>
      let p := if !first && t == .flowEntry then some p.next else if first then some p else none
      match p with
      | none => .error "while parsing a flow mapping: did not find expected ',' or '\x7d'"
      | some p =>
        match p.peek with
        | .key =>
          let p := p.next
          let key : ParseResult (Node × Parser) := match p.peek with
            | .value | .flowEntry | .flowMappingEnd => .ok (emptyScalar, p)
            | _ => parseNode fuel false false p
          match key with
          | .error e => .error e
          | .ok (k, p) =>
            let value : ParseResult (Node × Parser) := match p.peek with
              | .value =>
                let p := p.next
                match p.peek with
                | .flowEntry | .flowMappingEnd => .ok (emptyScalar, p)
                | _ => parseNode fuel false false p
              | _ => .ok (emptyScalar, p)
            match value with
            | .error e => .error e
            | .ok (v, p) => flowMapping fuel false (acc ++ [(k, v)]) p
        | .flowMappingEnd => .ok (.map acc, p.next)
        | _ =>
          match parseNode fuel false false p with
          | .error e => .error e
          | .ok (k, p) => flowMapping fuel false (acc ++ [(k, emptyScalar)]) p

end

def defaultHandles : List (String × List UInt8) :=
  [("!", [33]), ("!!", "tag:yaml.org,2002:".toUTF8.toList)]

/-- Reads the directives before a document: at most one `%YAML` of version 1.1 or 1.2, and
`%TAG` directives of distinct handles; then the default handles not given. -/
def processDirectives (p : Parser) : ParseResult Parser :=
  let rec go : Nat → Bool → List (String × List UInt8) → Parser → ParseResult Parser
    | 0, _, hs, p => .ok { p with handles := hs }
    | fuel + 1, seen, hs, p =>
      match p.peek with
      | .versionDirective major minor =>
        if seen then .error "found duplicate %YAML directive"
        else if major != 1 || (minor != 1 && minor != 2) then
          .error "found incompatible YAML document"
        else go fuel true hs p.next
      | .tagDirective h pre =>
        if (hs.lookup h).isSome then .error "found duplicate %TAG directive"
        else go fuel seen (hs ++ [(h, pre)]) p.next
      | _ =>
        .ok { p with handles := hs ++ defaultHandles.filter fun (h, _) => (hs.lookup h).isNone }
  go (p.tokens.length + 1) false [] p

def endsDocument : Token → Bool
  | .versionDirective _ _ | .tagDirective _ _ | .documentStart | .documentEnd | .streamEnd => true
  | _ => false

/-- Reads the one document of a token stream. -/
def parseStream (tokens : List Token) : ParseResult Document := do
  let p : Parser := ⟨tokens.drop 1, [], [], [], 0, []⟩
  let fuel := 2 * tokens.length + 2
  let (root, p) ← match p.peek with
    | .streamEnd => throw "the text holds no document"
    | .versionDirective _ _ | .tagDirective _ _ | .documentStart => do
      let p ← processDirectives p
      if p.peek != .documentStart then throw "did not find expected <document start>"
      let p := p.next
      if endsDocument p.peek then pure (emptyScalar, p) else parseNode fuel true false p
    | _ => do
      let p ← processDirectives p
      parseNode fuel true false p
  if p.tokens.dropWhile (· == .documentEnd) != [.streamEnd] then
    throw "the text holds more than one document"
  pure ⟨root, p.anchored⟩

/-- Reads a text holding exactly one YAML document. -/
def readDocument? (text : String) : Option Document :=
  match tokenize text >>= parseStream with
  | .ok d => some d
  | .error _ => none

end Heartbeat.Yaml
