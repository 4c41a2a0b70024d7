import ManifestLint.Block.Basic
import ManifestLint.Statement

/-!
# Finding the blocks of a stream

Nodes are found by one scan that counts braces: a new `node` keyword abandons a block still open,
and a block left open at the end of the stream yields nothing. A class or a defined type is found
from its keyword, followed by a name, an optional parameter list and a body; a resource-like `class`
declaration has no name there and is no definition.
-/
namespace ManifestLint

/-- A node whose end has not been seen: its keyword, its titles once the body has begun, and how
many braces are open. -/
structure OpenNode where
  start : Nat
  titles : List Nat
  depth : Nat
  deriving DecidableEq, Repr

/-- The state of the scan for nodes: the blocks found, latest first, and the node still open. -/
structure NodeScan where
  found : List Block
  current : Option OpenNode
  deriving Repr

namespace TokenStream

variable (s : TokenStream)

/-- The title literals from one position up to, but not including, another. -/
def titlesBetween (start stop : Nat) : List Nat :=
  ((⟨start, stop⟩ : Span).positions s).filter s.isNodeTitle

/-- Takes the token at a position into the scan for nodes. -/
def scanNode (scan : NodeScan) (i : Nat) : NodeScan :=
  -- A keyword always starts afresh, whatever is open.
  if s.isKind i .nodeKw then { scan with current := some ⟨i, [], 0⟩ }
  else match scan.current with
    | none => scan
    | some node =>
      if s.isKind i .lbrace then
        -- The titles end where the body begins.
        let titles := if node.depth = 0 then s.titlesBetween node.start i else node.titles
        { scan with current := some { node with titles, depth := node.depth + 1 } }
      else if s.isKind i .rbrace then
        if node.depth = 0 then scan
        else if node.depth = 1 then
          ⟨⟨node.start, i, .node node.titles⟩ :: scan.found, none⟩
        else { scan with current := some { node with depth := node.depth - 1 } }
      else scan

/-- The nodes of a stream, in the order of their keywords. -/
def nodes : List Block :=
  ((List.range s.size).foldl s.scanNode ⟨[], none⟩).found.reverse

/-- The positions after a given one. -/
def after (i : Nat) : List Nat := List.range' (i + 1) (s.size - (i + 1))

/-- The first closing token among the given positions that balances the opening tokens counted so
far. -/
def balance? (opener closer : TokenKind) : Nat → List Nat → Option Nat
  | _, [] => none
  | depth, i :: rest =>
    if s.isKind i opener then balance? opener closer (depth + 1) rest
    else if s.isKind i closer then
      if depth ≤ 1 then some i else balance? opener closer (depth - 1) rest
    else balance? opener closer depth rest

/-- The closing token that matches the opening token at a position. -/
def closing? (opener closer : TokenKind) (i : Nat) : Option Nat :=
  s.balance? opener closer 1 (s.after i)

/-- The parameter list behind the name of a definition, and where its head ends. There may be no
list, but one that is opened must be closed. -/
def parameterList? (name : Nat) : Option (Option Span × Nat) :=
  match s.next? name with
  | some opening =>
    if s.isKind opening .lparen then
      (s.closing? .lparen .rparen opening).map fun close =>
        (some ⟨opening + 1, close⟩, close)
    else some (none, name)
  | none => some (none, name)

/-- The definition whose keyword stands at a position. -/
def definition? (i : Nat) : Option Block := do
  guard (s.isKind i .classKw || s.isKind i .defineKw)
  let name ← s.next? i
  guard (s.isKind name .name)
  let (params, head) ← s.parameterList? name
  -- What stands between the head and the body, a parent class perhaps, is passed over.
  let body ← (s.after head).find? (s.isKind · .lbrace)
  let stop ← s.closing? .lbrace .rbrace body
  let kind := if s.isKind i .classKw then .classDef name params else .definedType name params
  some ⟨i, stop, kind⟩

/-- The classes and defined types of a stream, in the order of their keywords. -/
def definitions : List Block := (List.range s.size).filterMap s.definition?

end TokenStream

end ManifestLint
