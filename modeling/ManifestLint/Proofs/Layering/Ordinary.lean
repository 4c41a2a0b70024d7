import ManifestLint.Layering.Rule
import ManifestLint.Proofs.Parameter
import ManifestLint.Proofs.Token.Links

/-!
# Ordinary findings

Most conventions only report: their findings stand at a token of the stream or at the start of the
file, offer no repair, and are not worded like a finding about the pattern of a node. This holds of
every family of findings but the one about the titles of nodes. A family that is not about calls has
quiet findings, which are not worded like one about a call either.
-/
namespace ManifestLint

namespace TokenStream

variable {s : TokenStream}

theorem includedClass?_lt_size {i target : Nat} (found : s.includedClass? i = some target) :
    target < s.size := by
  rw [includedClass?] at found
  split at found
  · obtain ⟨next, link, named⟩ := Option.bind_eq_some_iff.mp found
    split at named
    · exact next?_lt_size named
    · cases named
      exact next?_lt_size link
  · cases found

theorem declaredClass?_lt_size {i target : Nat} (found : s.declaredClass? i = some target) :
    target < s.size := by
  rw [declaredClass?] at found
  split at found
  · obtain ⟨brace, _, link⟩ := Option.bind_eq_some_iff.mp found
    exact next?_lt_size link
  · cases found

end TokenStream

namespace Layering

/-- How findings about the pattern of a node begin. -/
def patternOpening : String := "node regex must"

/-- How findings about calls begin. -/
def callOpening : String := "Found "

/-- A finding that only reports. -/
structure Finding.Ordinary (s : TokenStream) (f : Finding) : Prop where
  repair : f.repair = none
  inside : ∀ i, f.site = .token i → i < s.size
  wording : ¬ patternOpening.toList <+: f.message.toList

/-- An ordinary finding that is not about a call. -/
structure Finding.Quiet (s : TokenStream) (f : Finding) : Prop extends f.Ordinary s where
  silence : ¬ callOpening.toList <+: f.message.toList

variable {s : TokenStream}

theorem ordinary_at {i : Nat} (inside : i < s.size) {message : String}
    (wording : ¬ patternOpening.toList <+: message.toList) : (Finding.at i message).Ordinary s where
  repair := rfl
  inside := by
    rintro _ ⟨⟩
    exact inside
  wording := wording

theorem ordinary_atStart {message : String}
    (wording : ¬ patternOpening.toList <+: message.toList) :
    (Finding.atStart message).Ordinary s where
  repair := rfl
  inside := by
    rintro _ ⟨⟩
  wording := wording

theorem quiet_at {i : Nat} (inside : i < s.size) {message : String}
    (wording : ∀ opening ∈ [patternOpening, callOpening], ¬ opening.toList <+: message.toList) :
    (Finding.at i message).Quiet s where
  toOrdinary := ordinary_at inside (wording patternOpening (by simp))
  silence := wording callOpening (by simp)

theorem quiet_atStart {message : String}
    (wording : ∀ opening ∈ [patternOpening, callOpening], ¬ opening.toList <+: message.toList) :
    (Finding.atStart message).Quiet s where
  toOrdinary := ordinary_atStart (wording patternOpening (by simp))
  silence := wording callOpening (by simp)

theorem lt_size_of_mem_positions {b : Block} {i : Nat} (member : i ∈ b.positions s) : i < s.size :=
  ((Block.mem_positions b s i).mp member).1

theorem lt_size_of_mem_includedClasses {b : Block} {i : Nat} (member : i ∈ b.includedClasses s) :
    i < s.size := by
  obtain ⟨_, _, found⟩ := List.mem_filterMap.mp member
  exact TokenStream.includedClass?_lt_size found

theorem lt_size_of_mem_declaredClasses {b : Block} {i : Nat} (member : i ∈ b.declaredClasses s) :
    i < s.size := by
  obtain ⟨_, _, found⟩ := List.mem_filterMap.mp member
  exact TokenStream.declaredClass?_lt_size found

theorem lt_size_of_mem_resourcesOf {b : Block} {type : String} {i : Nat}
    (member : i ∈ b.resourcesOf s type) : i < s.size :=
  lt_size_of_mem_positions (List.mem_filter.mp (List.mem_filter.mp member).1).1

/-! ### Who may fetch data -/

theorem ordinary_withoutLookups (b : Block) : ∀ f ∈ withoutLookups s b, f.Ordinary s := by
  intro f member
  obtain ⟨i, position, found⟩ := List.mem_filterMap.mp member
  have inside := lt_size_of_mem_positions position
  split at found
  · cases found
    exact ordinary_at inside (by simp [patternOpening, toString])
  · split at found
    · cases found
      exact ordinary_at inside (by simp [patternOpening, toString])
    · cases found

theorem quiet_parameterDefaults (b : Block) : ∀ f ∈ parameterDefaults s b, f.Quiet s := by
  intro f member
  obtain ⟨p, declared, found⟩ := List.mem_filterMap.mp member
  -- The finding stands at the token that declares the parameter.
  have inside := b.parameters_declaredBelow s p declared
  split at found
  · cases found
  · split at found
    · cases found
      exact quiet_at inside (by simp [patternOpening, callOpening, toString])
    · cases found
      exact quiet_at inside (by simp [patternOpening, callOpening, toString])

theorem ordinary_lookupsOutsideDefaults (b : Block) :
    ∀ f ∈ lookupsOutsideDefaults s b, f.Ordinary s := by
  intro f member
  obtain ⟨i, position, found⟩ := List.mem_filterMap.mp member
  split at found
  · cases found
    exact ordinary_at (lt_size_of_mem_positions position) (by simp [patternOpening, toString])
  · cases found

theorem ordinary_withoutLegacyValidates (b : Block) :
    ∀ f ∈ withoutLegacyValidates s b, f.Ordinary s := by
  intro f member
  obtain ⟨i, call, rfl⟩ := List.mem_map.mp member
  exact ordinary_at (lt_size_of_mem_positions (List.mem_filter.mp call).1)
    (by simp [patternOpening, toString])

/-! ### Who may depend on what -/

theorem quiet_profileIncludes (c : Conventions) (b : Block) :
    ∀ f ∈ profileIncludes c s b, f.Quiet s := by
  intro f member
  obtain ⟨i, included, found⟩ := List.mem_filterMap.mp member
  dsimp only at found
  split at found
  · cases found
  · cases found
    exact quiet_at (lt_size_of_mem_includedClasses included)
      (by simp [patternOpening, callOpening, toString])

theorem quiet_roleIncludes (c : Conventions) (b : Block) :
    ∀ f ∈ roleIncludes c s b, f.Quiet s := by
  intro f member
  obtain ⟨i, included, found⟩ := List.mem_filterMap.mp member
  dsimp only at found
  split at found
  · cases found
  · cases found
    exact quiet_at (lt_size_of_mem_includedClasses included)
      (by simp [patternOpening, callOpening, toString])

theorem quiet_roleResourceOnce (c : Conventions) (b : Block) :
    ∀ f ∈ roleResourceOnce c s b, f.Quiet s := by
  intro f member
  rw [roleResourceOnce] at member
  split at member
  · cases member
  · rw [List.mem_singleton.mp member]
    exact quiet_atStart (by simp [patternOpening, callOpening, toString])

theorem quiet_roleOtherResources (c : Conventions) (b : Block) :
    ∀ f ∈ roleOtherResources c s b, f.Quiet s := by
  intro f member
  rw [roleOtherResources] at member
  split at member
  · cases member
  · rw [List.mem_singleton.mp member]
    exact quiet_atStart (by simp [patternOpening, callOpening, toString])

theorem quiet_roleResourceElsewhere (c : Conventions) (b : Block) :
    ∀ f ∈ roleResourceElsewhere c s b, f.Quiet s := by
  intro f member
  obtain ⟨i, resource, rfl⟩ := List.mem_map.mp member
  exact quiet_at (lt_size_of_mem_resourcesOf resource)
    (by simp [patternOpening, callOpening, toString])

theorem quiet_foreignIncludes (b : Block) : ∀ f ∈ foreignIncludes s b, f.Quiet s := by
  intro f member
  obtain ⟨i, included, found⟩ := List.mem_filterMap.mp member
  dsimp only at found
  split at found
  · cases found
  · cases found
    exact quiet_at (lt_size_of_mem_includedClasses included)
      (by simp [patternOpening, callOpening, toString])

theorem quiet_foreignDeclarations (b : Block) :
    ∀ f ∈ foreignDeclarations s b, f.Quiet s := by
  intro f member
  obtain ⟨i, declared, found⟩ := List.mem_filterMap.mp member
  dsimp only at found
  split at found
  · cases found
  · split at found
    · cases found
    · cases found
      refine quiet_at (lt_size_of_mem_declaredClasses declared) ?_
      cases b.kind <;> simp [patternOpening, callOpening, toString, BlockKind.label]

theorem quiet_deprecatedDefines (c : Conventions) (b : Block) :
    ∀ f ∈ deprecatedDefines c s b, f.Quiet s := by
  intro f member
  obtain ⟨define, _, found⟩ := List.mem_filterMap.mp member
  split at found
  · cases found
  · cases found
    refine quiet_atStart ?_
    cases b.kind <;> simp [patternOpening, callOpening, toString, BlockKind.label]

/-! ### What a node may say -/

theorem ordinary_nodeBody (c : Conventions) (b : Block) : ∀ f ∈ nodeBody c s b, f.Ordinary s := by
  intro f member
  obtain ⟨i, position, found⟩ := List.mem_filterMap.mp member
  have inside := lt_size_of_mem_positions position
  rw [nodeStatement] at found
  split at found
  · cases found
    exact ordinary_at inside (by simp [patternOpening, toString])
  · split at found
    · cases found
      exact ordinary_at inside (by simp [patternOpening, toString])
    · split at found
      -- An include is reported at the class it names.
      next target included =>
        cases found
        exact ordinary_at (TokenStream.includedClass?_lt_size included)
          (by simp [patternOpening, toString])
      · split at found
        next target declared =>
          cases found
          exact ordinary_at (TokenStream.declaredClass?_lt_size declared)
            (by simp [patternOpening, toString])
        · dsimp only at found
          split at found
          · cases found
            exact ordinary_at inside (by simp [patternOpening, toString])
          · cases found

end Layering

end ManifestLint
