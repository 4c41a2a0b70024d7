import ManifestLint.Token.Stream

/-!
# Blocks

A block is a class, a defined type or a node: a contiguous part of a stream from its keyword to the
brace that closes its body. Blocks are positions only. They may also be supplied from outside, so
nothing is assumed about their order or range: positions past the end of the stream stand for no
token.
-/
namespace ManifestLint

/-- The positions from `start` up to, but not including, `stop`. -/
structure Span where
  start : Nat
  stop : Nat
  deriving DecidableEq, Repr

/-- What a block declares. -/
inductive BlockKind where
  /-- A class: the position of its name, and the tokens between its parentheses. -/
  | classDef (name : Nat) (params : Option Span)
  /-- A defined type: the position of its name, and the tokens between its parentheses. -/
  | definedType (name : Nat) (params : Option Span)
  /-- A node: the positions of its titles. -/
  | node (titles : List Nat)
  deriving DecidableEq, Repr

/-- A block, from its keyword to its closing brace, both included. -/
structure Block where
  start : Nat
  stop : Nat
  kind : BlockKind
  deriving DecidableEq, Repr

namespace BlockKind

/-- The position of the name of a class or a defined type. -/
def name? : BlockKind → Option Nat
  | .classDef name _ | .definedType name _ => some name
  | .node _ => none

/-- The tokens between the parentheses of a class or a defined type. -/
def params? : BlockKind → Option Span
  | .classDef _ params | .definedType _ params => params
  | .node _ => none

/-- The positions of the titles of a node. -/
def titles : BlockKind → List Nat
  | .node titles => titles
  | _ => []

/-- Whether a block is a class. -/
def isClass : BlockKind → Bool
  | .classDef _ _ => true
  | _ => false

/-- Whether a block is a defined type. -/
def isDefinedType : BlockKind → Bool
  | .definedType _ _ => true
  | _ => false

/-- Whether a block is a node. -/
def isNode : BlockKind → Bool
  | .node _ => true
  | _ => false

/-- What messages call a block of this kind. -/
def label : BlockKind → String
  | .classDef _ _ => "class"
  | .definedType _ _ => "defined type"
  | .node _ => "node"

end BlockKind

/-- The positions of a span that hold a token. -/
def Span.positions (span : Span) (s : TokenStream) : List Nat :=
  List.range' span.start (min span.stop s.size - span.start)

/-- The positions of a block that hold a token, layout included. -/
def Block.positions (b : Block) (s : TokenStream) : List Nat :=
  List.range' b.start (min (b.stop + 1) s.size - b.start)

@[simp] theorem Span.mem_positions (span : Span) (s : TokenStream) (i : Nat) :
    i ∈ span.positions s ↔ i < s.size ∧ span.start ≤ i ∧ i < span.stop := by
  rw [Span.positions, List.mem_range'_1]
  omega

@[simp] theorem Block.mem_positions (b : Block) (s : TokenStream) (i : Nat) :
    i ∈ b.positions s ↔ i < s.size ∧ b.start ≤ i ∧ i ≤ b.stop := by
  rw [Block.positions, List.mem_range'_1]
  omega

end ManifestLint
