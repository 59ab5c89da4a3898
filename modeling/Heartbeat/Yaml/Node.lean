/-!
# YAML nodes

The tree a YAML document reads to: scalars keep their text, how they were written (a plain
scalar may still be read as a number or as null; a quoted or block scalar is always text) and
their tag, resolved (`!!int` is `tag:yaml.org,2002:int`); sequences keep their items and
mappings their entries, in order and with duplicates. Tags on collections are dropped: nothing
read from a collection depends on them. Aliases stay in the tree as references, followed only
when a value is read through them.

* `Style`, `Node`, `coreTag`, `Document`, `Ref`;
* `Node.events`, `Document.aliasLimit` : the size of a document, and the aliases a reader may
  follow in it;
* `Ref.follow` : an alias followed, and counted;
* `Node.absent?` : whether an optional value is absent: an untagged plain `~`, `null`, `Null`,
  `NULL` or nothing at all, or a plain `!!null` scalar, which must then spell null (and may
  not be empty);
* `Node.unsigned?` : the unsigned integer a scalar is read as, by its style and tag;
* `readUnsigned?` : the unsigned integer a plain scalar spells: decimal without leading zeros,
  or `0x`, `0o`, `0b` followed by digits of that base, all after an optional `+`; no sign
  other than that `+` is read, so `-0` is not a number.
-/

namespace Heartbeat.Yaml

inductive Style where
  | plain
  | singleQuoted
  | doubleQuoted
  | literal
  | folded
  deriving DecidableEq, Repr

/-- A YAML node. An alias stands for an anchored node by the number of its anchor; what that
number names is only settled when the whole document is read (see `Document`). -/
inductive Node where
  | scalar (text : String) (style : Style) (tag : Option String)
  | seq (items : List Node)
  | map (entries : List (Node × Node))
  | alias (id : Nat)
  deriving Repr, Inhabited

/-- The resolved form of a tag of the core schema, written `!!name`. -/
def coreTag (name : String) : String := "tag:yaml.org,2002:" ++ name

def spellsNull (t : String) : Bool :=
  t == "~" || t == "null" || t == "Null" || t == "NULL"

namespace Node

/-- The empty plain scalar: what a key without a value, or an empty document, holds. -/
def empty : Node := .scalar "" .plain none

/-- Whether an optional value is absent; `none` when a `!!null` scalar does not spell null. -/
def absent? : Node → Option Bool
  | .scalar t .plain none => some (t == "" || spellsNull t)
  | .scalar t .plain (some g) =>
    if g == coreTag "null" then (if spellsNull t then some true else none)
    else some false
  | _ => some false

/-- The empty plain scalar, tagged or not, which also reads as an empty sequence or mapping. -/
def isEmptyPlain : Node → Bool
  | .scalar "" .plain _ => true
  | _ => false

end Node

mutual
/-- The number of events a node is read as: one for a scalar or an alias, and for a collection
one for its start, one for its end and those of its items or of its keys and values. -/
def Node.events : Node → Nat
  | .scalar _ _ _ => 1
  | .alias _ => 1
  | .seq items => Node.itemEvents items + 2
  | .map entries => Node.entryEvents entries + 2

def Node.itemEvents : List Node → Nat
  | [] => 0
  | n :: ns => n.events + Node.itemEvents ns

def Node.entryEvents : List (Node × Node) → Nat
  | [] => 0
  | (k, v) :: es => k.events + v.events + Node.entryEvents es
end

/-- A YAML document: its root, and the anchored nodes by the numbers aliases use. -/
structure Document where
  root : Node
  anchored : List (Nat × Node)
  deriving Repr

/-- How many aliases a reader may follow in a document: a hundred for each of its events. A
document that needs more, by aliases of collections that hold aliases, repeats itself past
what its size accounts for and is refused. -/
def Document.aliasLimit (d : Document) : Nat := 100 * d.root.events

/-- A node of a document, with the document's anchored nodes at hand to follow aliases. -/
structure Ref where
  anchored : List (Nat × Node)
  node : Node

/-- Follows an alias to the node its anchor names (an anchored node is never an alias), with the
number of aliases followed: one for an alias, none for any other node. -/
def Ref.follow (r : Ref) : Ref × Nat :=
  match r.node with
  | .alias id => (⟨r.anchored, (r.anchored.lookup id).getD r.node⟩, 1)
  | _ => (r, 0)

def Ref.at (r : Ref) (n : Node) : Ref := ⟨r.anchored, n⟩

def digitIn (base : Nat) (c : Char) : Option Nat :=
  let v := if c.isDigit then c.toNat - '0'.toNat
    else if 'a' ≤ c && c ≤ 'f' then c.toNat - 'a'.toNat + 10
    else if 'A' ≤ c && c ≤ 'F' then c.toNat - 'A'.toNat + 10
    else 16
  if v < base then some v else none

def digitsIn (base : Nat) (cs : List Char) : Option Nat :=
  if cs.isEmpty then none
  else cs.foldlM (fun n c => (digitIn base c).map (n * base + ·)) 0

def readUnsigned? (s : String) : Option Nat :=
  let cs := match s.toList with
    | '+' :: r => r
    | r => r
  let radix (base : Nat) (rest : List Char) : Option Nat :=
    match rest with
    | '+' :: _ => none
    | '-' :: _ => none
    | _ => digitsIn base rest
  match cs with
  | '0' :: 'x' :: rest => radix 16 rest
  | '0' :: 'o' :: rest => radix 8 rest
  | '0' :: 'b' :: rest => radix 2 rest
  | '0' :: _ :: _ => none
  | '+' :: _ => none
  | _ => digitsIn 10 cs

/-- The unsigned integer a scalar is read as: its text, when it is plain (whatever its tag), or
when it is a literal block scalar tagged `!!int`. Any other scalar is not a number. -/
def Node.unsigned? : Node → Option Nat
  | .scalar t .plain _ => readUnsigned? t
  | .scalar t .literal (some g) => if g == coreTag "int" then readUnsigned? t else none
  | _ => none

end Heartbeat.Yaml
