import ManifestLint.Proofs.Block.Definition

/-!
# The extent of a block

Every block that is found in a stream begins at its keyword and ends at a closing brace behind it,
and its name, its parameters and its titles lie between the two.
-/
namespace ManifestLint

/-- A block from a keyword to a closing brace, with all it names in between. -/
structure Block.Framed (s : TokenStream) (b : Block) : Prop where
  opens : s.isKind b.start .classKw = true ∨ s.isKind b.start .defineKw = true ∨
    s.isKind b.start .nodeKw = true
  closes : s.isKind b.stop .rbrace = true
  ordered : b.start < b.stop
  name : ∀ name, b.kind.name? = some name → b.start ≤ name ∧ name ≤ b.stop
  params : ∀ span, b.kind.params? = some span →
    b.start ≤ span.start ∧ span.start ≤ span.stop ∧ span.stop ≤ b.stop
  titles : ∀ title ∈ b.kind.titles, b.start ≤ title ∧ title ≤ b.stop

namespace TokenStream

variable {s : TokenStream}

theorem IsDefinition.framed {b : Block} {name head body : Nat} {params : Option Span}
    (isDefinition : s.IsDefinition b name params head body) : b.Framed s := by
  have bounds := isDefinition.bounds
  obtain ⟨name?_eq, params?_eq, titles_eq, -⟩ := isDefinition.kind_parts
  refine ⟨?_, isDefinition.brace, by omega, ?_, ?_, ?_⟩
  · rcases isDefinition.kind with ⟨isClass, -⟩ | ⟨isDefine, -⟩
    · exact .inl isClass
    · exact .inr (.inl isDefine)
  · intro other named
    cases name?_eq.symm.trans named
    omega
  · intro span given
    have inside := isDefinition.heads.bounds.2 span (params?_eq.symm.trans given)
    omega
  · simp [titles_eq]

theorem isNode_of_mem_definitions {b : Block} (member : b ∈ s.definitions) :
    b.kind.isNode = false := by
  obtain ⟨name, params, head, body, isDefinition⟩ := mem_definitions_iff.mp member
  exact isDefinition.kind_parts.2.2.2

theorem IsNode.framed {b : Block} {body : Nat} (isNode : s.IsNode b body) : b.Framed s := by
  have bounds := isNode.body_bounds
  refine ⟨.inr (.inr isNode.keyword), isNode.brace, by omega, ?_, ?_, fun title member => ?_⟩
  · simp [isNode.kind, BlockKind.name?]
  · simp [isNode.kind, BlockKind.params?]
  · have inside := isNode.mem_titles member
    omega

/-- Every block of a stream is framed. -/
theorem framed_of_mem {b : Block} (member : b ∈ s.definitions ++ s.nodes) : b.Framed s := by
  rcases List.mem_append.mp member with defined | node
  · obtain ⟨name, params, head, body, isDefinition⟩ := mem_definitions_iff.mp defined
    exact isDefinition.framed
  · obtain ⟨body, isNode⟩ := mem_nodes_iff.mp node
    exact isNode.framed

end TokenStream

end ManifestLint
