import ManifestLint.Block.View

/-!
# Reading parameter lists

Every parameter is declared by a token of the stream, and its default consists of tokens of the
stream. Both follow from what a step can do to the parameters: it declares a name, adds a token to a
value or starts a value anew.
-/
namespace ManifestLint

/-- Parameters whose declaring tokens stand before a position. -/
def Parameters.DeclaredBelow (params : Parameters) (bound : Nat) : Prop :=
  ∀ p ∈ params, p.token < bound

/-- Parameters whose defaults stand before a position. -/
def Parameters.ValuedBelow (params : Parameters) (bound : Nat) : Prop :=
  ∀ p ∈ params, ∀ i ∈ p.value, i < bound

/-- What survives every change that reading tokens before a position makes to parameters. -/
structure Parameters.Kept (holds : Parameters → Prop) (bound : Nat) : Prop where
  declare : ∀ params name, ∀ i < bound, holds params → holds (params.declare name i)
  extend : ∀ params name, ∀ i < bound, holds params → holds (params.updateValue name (· ++ [i]))
  restart : ∀ params name, holds params → holds (params.updateValue name fun _ => [])

/-! ### What a run keeps -/

namespace ParameterScan

variable {holds : Parameters → Prop} {scan : ParameterScan}

theorem step_kept {bound i : Nat} (kept : Parameters.Kept holds bound) (inside : i < bound)
    (token : Token) (before : holds scan.params) : holds (scan.step i token).params := by
  rw [step]
  split
  · exact before
  split
  · rw [stepValue]
    split
    · exact before
    · rw [push]
      split
      · exact before
      · exact kept.extend _ _ i inside before
  · rw [stepHead]
    split
    · exact kept.declare _ _ i inside before
    · exact before
    · split
      · exact before
      · exact kept.restart _ _ before
    · exact before

theorem run_kept {s : TokenStream} (kept : Parameters.Kept holds s.size)
    (before : holds scan.params) (positions : List Nat) : holds (run s scan positions).params := by
  induction positions generalizing scan with
  | nil => exact before
  | cons i rest ih =>
    rw [run]
    split
    · exact before
    next token found =>
      -- The run ends where there is no token, so every token it takes in lies in the stream.
      have inside : i < s.size := (Array.getElem?_eq_some_iff.mp found).1
      exact ih (step_kept kept inside token before)

end ParameterScan

theorem Block.parameters_kept {holds : Parameters → Prop} {s : TokenStream}
    (kept : Parameters.Kept holds s.size) (empty : holds []) (b : Block) :
    holds (b.parameters s) := by
  rw [Block.parameters]
  split
  · exact empty
  · exact ParameterScan.run_kept kept empty _

/-! ### Declarations and defaults -/

namespace Parameters

variable {params : Parameters} {bound : Nat}

theorem mem_declare {p : Parameter} {name : String} {i : Nat}
    (member : p ∈ params.declare name i) : p ∈ params ∨ p = ⟨name, i, []⟩ := by
  rw [declare] at member
  split at member
  · exact Or.inl member
  · exact (List.mem_append.mp member).imp_right List.mem_singleton.mp

theorem mem_updateValue {p : Parameter} {name : String} {f : List Nat → List Nat}
    (member : p ∈ params.updateValue name f) :
    ∃ q ∈ params, p.token = q.token ∧ (p.value = q.value ∨ p.value = f q.value) := by
  obtain ⟨q, old, rfl⟩ := List.mem_map.mp member
  split
  · exact ⟨q, old, rfl, Or.inr rfl⟩
  · exact ⟨q, old, rfl, Or.inl rfl⟩

theorem declaredBelow_kept : Kept (DeclaredBelow · bound) bound where
  declare := by
    intro params name i inside below p member
    rcases mem_declare member with old | rfl
    · exact below p old
    · exact inside
  extend := by
    intro params name i _ below p member
    obtain ⟨q, old, same, _⟩ := mem_updateValue member
    exact same ▸ below q old
  restart := by
    intro params name below p member
    obtain ⟨q, old, same, _⟩ := mem_updateValue member
    exact same ▸ below q old

theorem valuedBelow_kept : Kept (ValuedBelow · bound) bound where
  declare := by
    intro params name i _ below p member
    rcases mem_declare member with old | rfl
    · exact below p old
    · simp
  extend := by
    intro params name i inside below p member j value
    obtain ⟨q, old, _, same | longer⟩ := mem_updateValue member
    · exact below q old j (same ▸ value)
    · rw [longer] at value
      rcases List.mem_append.mp value with earlier | new
      · exact below q old j earlier
      · rw [List.mem_singleton.mp new]
        exact inside
  restart := by
    intro params name below p member j value
    obtain ⟨q, old, _, same | none⟩ := mem_updateValue member
    · exact below q old j (same ▸ value)
    · rw [none] at value
      cases value

end Parameters

theorem Block.parameters_declaredBelow (b : Block) (s : TokenStream) :
    (b.parameters s).DeclaredBelow s.size :=
  b.parameters_kept Parameters.declaredBelow_kept (by simp [Parameters.DeclaredBelow])

theorem Block.parameters_valuedBelow (b : Block) (s : TokenStream) :
    (b.parameters s).ValuedBelow s.size :=
  b.parameters_kept Parameters.valuedBelow_kept (by simp [Parameters.ValuedBelow])

end ManifestLint
