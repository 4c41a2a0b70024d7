import ManifestLint.Proofs.Cut.View
import ManifestLint.Proofs.Linter.RepairPass

/-!
# Findings of a block that was cut out

Blocks are self-contained: every family of findings gives for a block the findings of the block that
was cut out, moved up by its start. No message and no place depends on what stands around a block.
-/
namespace ManifestLint

/-- A violation whose token, if it names one, is moved up. -/
def Violation.moved (k : Nat) (v : Violation) : Violation := { v with token := v.token.map (k + ·) }

namespace Layering

/-- A site that is moved up. -/
def Site.moved (k : Nat) : Site → Site
  | .token i => .token (k + i)
  | .start => .start

/-- A finding that is moved up. -/
def Finding.moved (k : Nat) (f : Finding) : Finding := { f with site := f.site.moved k }

variable {s : TokenStream} {b : Block} {j : Nat}

section Families

variable (framed : b.Framed s) (c : Conventions)
include framed

/-! ### Data access -/

theorem keySuffix_alone (within : b.start + j ≤ b.stop)
    (call : (b.alone s).isFunctionCall j = true) :
    keySuffix s (b.start + j) = keySuffix (b.alone s) j := by
  obtain ⟨named, follows⟩ := Bool.and_eq_true_iff.mp call
  have before : b.start + j < b.stop := by
    rcases Bool.or_eq_true_iff.mp named with holds | holds
    · exact framed.lt_stop_of_isKind within holds (by decide)
    · exact framed.lt_stop_of_isKind within holds (by decide)
  -- The argument stands two code tokens ahead, behind the parenthesis.
  rw [keySuffix, keySuffix, framed.next?_next?_alone before follows (by decide)]
  cases found : ((b.alone s).next? j).bind (b.alone s).next? with
  | none => rfl
  | some argument =>
    obtain ⟨_, _, link⟩ := Option.bind_eq_some_iff.mp found
    have inside := framed.le_stop_of_lt_size (TokenStream.next?_lt_size link)
    simp only [Option.map_some, framed.isKind_alone inside, framed.text_alone inside]

theorem withoutLookups_alone :
    withoutLookups s b = (withoutLookups (b.alone s) b.rebased).map (Finding.moved b.start) := by
  simp only [withoutLookups, framed.positions_eq, framed.name_eq, b.kind_rebased,
    BlockKind.label_rebased]
  refine filterMap_moved fun j member => ?_
  have within := framed.within_of_mem_positions member
  rw [framed.isLookup_alone within, framed.isLegacyLookup_alone within, framed.text_alone within]
  split
  next lookup =>
    rw [keySuffix_alone framed within (Bool.and_eq_true_iff.mp lookup).1]
    rfl
  split
  next legacy =>
    rw [keySuffix_alone framed within (Bool.and_eq_true_iff.mp legacy).1]
    rfl
  · rfl

theorem parameterDefaults_alone :
    parameterDefaults s b =
      (parameterDefaults (b.alone s) b.rebased).map (Finding.moved b.start) := by
  simp only [parameterDefaults, framed.parameters_eq, framed.name_eq, List.filterMap_map,
    List.map_filterMap]
  refine List.filterMap_congr fun p declared => ?_
  -- A default is made of tokens of the cut, and only of those is it known what they mean.
  have within : ∀ j ∈ p.value, b.start + j ≤ b.stop := fun j value =>
    framed.le_stop_of_lt_size (b.rebased.parameters_valuedBelow (b.alone s) p declared j value)
  have fetches : (p.moved b.start).value.any s.isLookup = p.value.any (b.alone s).isLookup := by
    rw [Parameter.moved, List.any_map, Bool.eq_iff_iff, List.any_eq_true, List.any_eq_true]
    refine exists_congr fun j => and_congr_right fun value => ?_
    rw [Function.comp_apply, framed.isLookup_alone (within j value)]
  have legacy : (p.moved b.start).value.find? s.isLegacyLookup =
      (p.value.find? (b.alone s).isLegacyLookup).map (b.start + ·) := by
    rw [Parameter.moved, List.find?_map]
    congr 1
    exact List.find?_congr fun j value => framed.isLegacyLookup_alone (within j value)
  rw [Function.comp_apply, fetches, legacy]
  split
  · rfl
  cases found : p.value.find? (b.alone s).isLegacyLookup with
  | none => rfl
  | some call =>
    rw [Option.map_some]
    dsimp only
    rw [framed.text_alone (within call (List.mem_of_find?_eq_some found))]
    rfl

theorem inDefault_alone (j : Nat) :
    (b.parameters s).inDefault (b.start + j) =
      (b.rebased.parameters (b.alone s)).inDefault j := by
  rw [framed.parameters_eq, Parameters.inDefault, Parameters.inDefault, List.any_map]
  refine List.any_congr rfl fun p => ?_
  rw [Function.comp_apply, Parameter.moved, Bool.eq_iff_iff, List.contains_iff_mem,
    List.contains_iff_mem]
  exact List.mem_map_of_injective fun _ _ equal => Nat.add_left_cancel equal

theorem lookupsOutsideDefaults_alone :
    lookupsOutsideDefaults s b =
      (lookupsOutsideDefaults (b.alone s) b.rebased).map (Finding.moved b.start) := by
  simp only [lookupsOutsideDefaults, framed.name_eq]
  rw [framed.positions_eq]
  refine filterMap_moved fun j member => ?_
  have within := framed.within_of_mem_positions member
  rw [framed.isLookup_alone within, framed.isLegacyLookup_alone within, framed.text_alone within,
    inDefault_alone framed]
  split
  next outside =>
    -- The key is looked for two tokens ahead, which only a call is known to have in the block.
    have call : (b.alone s).isFunctionCall j = true := by
      rcases Bool.or_eq_true_iff.mp (Bool.and_eq_true_iff.mp outside).1 with lookup | legacy
      · exact (Bool.and_eq_true_iff.mp lookup).1
      · exact (Bool.and_eq_true_iff.mp legacy).1
    rw [keySuffix_alone framed within call]
    rfl
  · rfl

theorem withoutLegacyValidates_alone :
    withoutLegacyValidates s b =
      (withoutLegacyValidates (b.alone s) b.rebased).map (Finding.moved b.start) := by
  simp only [withoutLegacyValidates, framed.legacyValidates_eq, framed.name_eq, b.kind_rebased,
    BlockKind.label_rebased, List.map_map]
  refine List.map_congr_left fun j member => ?_
  have within := framed.within_of_mem_positions (List.mem_filter.mp member).1
  simp only [Function.comp_apply, framed.text_alone within]
  rfl

/-! ### Dependencies -/

theorem within_of_mem_includedClasses (member : j ∈ b.rebased.includedClasses (b.alone s)) :
    b.start + j ≤ b.stop :=
  framed.le_stop_of_lt_size (lt_size_of_mem_includedClasses member)

theorem profileIncludes_alone :
    profileIncludes c s b =
      (profileIncludes c (b.alone s) b.rebased).map (Finding.moved b.start) := by
  simp only [profileIncludes, framed.includedClasses_eq, framed.name_eq]
  refine filterMap_moved fun j member => ?_
  rw [framed.text_alone (within_of_mem_includedClasses framed member)]
  split <;> rfl

theorem roleIncludes_alone :
    roleIncludes c s b = (roleIncludes c (b.alone s) b.rebased).map (Finding.moved b.start) := by
  simp only [roleIncludes, framed.includedClasses_eq, framed.name_eq]
  refine filterMap_moved fun j member => ?_
  rw [framed.text_alone (within_of_mem_includedClasses framed member)]
  split <;> rfl

theorem foreignIncludes_alone :
    foreignIncludes s b =
      (foreignIncludes (b.alone s) b.rebased).map (Finding.moved b.start) := by
  simp only [foreignIncludes, framed.includedClasses_eq, framed.name_eq, framed.module_eq]
  refine filterMap_moved fun j member => ?_
  rw [framed.text_alone (within_of_mem_includedClasses framed member)]
  split <;> rfl

theorem foreignDeclarations_alone :
    foreignDeclarations s b =
      (foreignDeclarations (b.alone s) b.rebased).map (Finding.moved b.start) := by
  simp only [foreignDeclarations, framed.declaredClasses_eq, framed.name_eq, framed.module_eq,
    b.kind_rebased, BlockKind.label_rebased, BlockKind.isDefinedType_rebased]
  refine filterMap_moved fun j member => ?_
  rw [framed.text_alone (framed.le_stop_of_lt_size (lt_size_of_mem_declaredClasses member))]
  split
  · rfl
  split <;> rfl

theorem roleResourceOnce_alone :
    roleResourceOnce c s b =
      (roleResourceOnce c (b.alone s) b.rebased).map (Finding.moved b.start) := by
  simp only [roleResourceOnce, framed.resourcesOf_eq, framed.name_eq, List.length_map]
  split <;> rfl

theorem roleOtherResources_alone :
    roleOtherResources c s b =
      (roleOtherResources c (b.alone s) b.rebased).map (Finding.moved b.start) := by
  have names : (b.declaredResources s).map (fun i => Name.normalize (s.text i)) =
      (b.rebased.declaredResources (b.alone s)).map
        fun j => Name.normalize ((b.alone s).text j) := by
    rw [framed.declaredResources_eq, List.map_map]
    refine List.map_congr_left fun j member => ?_
    have within := framed.within_of_mem_positions (List.mem_filter.mp member).1
    rw [Function.comp_apply, framed.text_alone within]
  simp only [roleOtherResources, framed.name_eq, names]
  split <;> rfl

theorem roleResourceElsewhere_alone :
    roleResourceElsewhere c s b =
      (roleResourceElsewhere c (b.alone s) b.rebased).map (Finding.moved b.start) := by
  simp only [roleResourceElsewhere, framed.resourcesOf_eq, framed.name_eq, List.map_map]
  rfl

theorem deprecatedDefines_alone :
    deprecatedDefines c s b =
      (deprecatedDefines c (b.alone s) b.rebased).map (Finding.moved b.start) := by
  simp only [deprecatedDefines, framed.resourcesOf_eq, framed.name_eq, b.kind_rebased,
    BlockKind.label_rebased, List.isEmpty_map, List.map_filterMap]
  refine List.filterMap_congr fun define _ => ?_
  split <;> rfl

/-! ### Nodes -/

theorem nodeStatement_alone (title : String) (within : b.start + j ≤ b.stop) :
    nodeStatement c s title (b.start + j) =
      (nodeStatement c (b.alone s) title j).map (Finding.moved b.start) := by
  rw [nodeStatement, nodeStatement, framed.isLookup_alone within,
    framed.isLegacyLookup_alone within, framed.includedClass?_alone within,
    framed.declaredClass?_alone within, framed.isResourceType_alone within,
    framed.text_alone within]
  split
  · rfl
  split
  · rfl
  cases included : (b.alone s).includedClass? j with
  | some target =>
    have inside := framed.le_stop_of_lt_size (TokenStream.includedClass?_lt_size included)
    simp only [Option.map_some, framed.text_alone inside]
    rfl
  | none =>
    cases declared : (b.alone s).declaredClass? j with
    | some target =>
      have inside := framed.le_stop_of_lt_size (TokenStream.declaredClass?_lt_size declared)
      simp only [Option.map_none, Option.map_some, framed.text_alone inside]
      rfl
    | none =>
      simp only [Option.map_none]
      split <;> rfl

theorem nodeBody_alone :
    nodeBody c s b = (nodeBody c (b.alone s) b.rebased).map (Finding.moved b.start) := by
  rw [nodeBody, nodeBody, framed.positions_eq, framed.title_eq]
  exact filterMap_moved fun j member =>
    nodeStatement_alone framed c _ (framed.within_of_mem_positions member)

theorem nodeTitle_alone (within : b.start + j ≤ b.stop) :
    nodeTitle c s (b.start + j) = (nodeTitle c (b.alone s) j).map (Finding.moved b.start) := by
  rw [nodeTitle, nodeTitle, framed.text_alone within, framed.isKind_alone within]
  split
  · simp only [List.map_append]
    congr 1
    · congr 1
      · rw [startProblem, startProblem]
        split <;> rfl
      · rw [endProblem, endProblem]
        split <;> rfl
    · rw [domainProblem, domainProblem]
      split
      · rfl
      · dsimp only
        split <;> rfl
  · rfl

theorem nodeTitles_alone :
    nodeTitles c s b = (nodeTitles c (b.alone s) b.rebased).map (Finding.moved b.start) := by
  rw [nodeTitles, nodeTitles, framed.titleTokens_eq, List.flatMap_map, List.map_flatMap]
  refine List.flatMap_congr fun j member => ?_
  have inside : j < (b.alone s).size := of_decide_eq_true (List.mem_filter.mp member).2
  exact nodeTitle_alone framed c (framed.le_stop_of_lt_size inside)

/-! ### Blocks -/

theorem layerFindings_alone (layer : Layer) :
    layerFindings c s b layer =
      (layerFindings c (b.alone s) b.rebased layer).map (Finding.moved b.start) := by
  cases layer with
  | profile =>
    simp only [layerFindings, List.map_append, ← parameterDefaults_alone framed,
      ← lookupsOutsideDefaults_alone framed, ← profileIncludes_alone framed c,
      ← roleResourceElsewhere_alone framed c]
  | role =>
    simp only [layerFindings, List.map_append, ← withoutLookups_alone framed,
      ← roleIncludes_alone framed c, ← roleResourceOnce_alone framed c,
      ← roleOtherResources_alone framed c]
  | plainClass =>
    simp only [layerFindings, List.map_append, ← withoutLookups_alone framed,
      ← foreignIncludes_alone framed, ← foreignDeclarations_alone framed,
      ← roleResourceElsewhere_alone framed c]
  | definedType =>
    simp only [layerFindings, List.map_append, ← withoutLookups_alone framed, ← framed.module_eq]
    split
    · rfl
    · rw [← foreignDeclarations_alone framed]
  | node =>
    simp only [layerFindings, List.map_append, ← nodeBody_alone framed c,
      ← nodeTitles_alone framed c]

theorem blockFindings_alone :
    blockFindings c s b = (blockFindings c (b.alone s) b.rebased).map (Finding.moved b.start) := by
  rw [blockFindings, blockFindings, List.map_append, ← framed.layer_eq,
    ← layerFindings_alone framed c, b.kind_rebased, BlockKind.isNode_rebased]
  split
  · rfl
  · rw [deprecations, deprecations, List.map_append, ← withoutLegacyValidates_alone framed,
      ← deprecatedDefines_alone framed c]

end Families

/-! ### Violations -/

theorem lt_size_of_mem_blockFindings (c : Conventions) {f : Finding}
    (member : f ∈ blockFindings c s b) {i : Nat} (site : f.site = .token i) : i < s.size := by
  rcases mem_blockFindings c member with ordinary | ⟨title, titled, _, problem, about⟩
  · exact ordinary.inside i site
  · obtain ⟨place, _⟩ := mem_problemFindings c about
    obtain rfl : title = i := Site.token.inj (place.symm.trans site)
    exact of_decide_eq_true (List.mem_filter.mp titled).2

theorem violation_moved (framed : b.Framed s) (path root : String) (rule : RuleInfo) {f : Finding}
    (within : ∀ i, f.site = .token i → b.start + i ≤ b.stop) :
    (f.moved b.start).violation (.ofStream path s root) rule =
      (f.violation (.ofStream path (b.alone s) root) rule).moved b.start := by
  obtain ⟨site, message, repair⟩ := f
  cases site with
  | start => rfl
  | token i =>
    have place : (FileContext.ofStream path s root).locationOf (b.start + i) =
        (FileContext.ofStream path (b.alone s) root).locationOf i := by
      simp only [FileContext.locationOf, FileContext.ofStream,
        framed.token?_alone (within i rfl)]
    simp only [Finding.violation, Finding.moved, Site.moved, FileContext.violationAt, place,
      Violation.moved, Option.map_some]

/-- The violations of a block in a file. -/
def blockViolations (c : Conventions) (path root : String) (s : TokenStream) (b : Block) :
    List Violation :=
  (blockFindings c s b).map (Finding.violation (.ofStream path s root) info)

/-- Blocks are self-contained. The violations of a file are those of its blocks, and those of a
block are the ones it has when nothing but its own tokens is there, moved up by its start. So a
violation of a block that names a token names one of the block. -/
theorem check_self_contained (c : Conventions) (path root : String) (s : TokenStream) :
    check c (.ofStream path s root) =
        (s.definitions ++ s.nodes).flatMap (blockViolations c path root s) ∧
      ∀ b ∈ s.definitions ++ s.nodes,
        blockViolations c path root s b =
            (blockViolations c path root (b.alone s) b.rebased).map (Violation.moved b.start) ∧
          ∀ v ∈ blockViolations c path root s b, ∀ i, v.token = some i →
            b.start ≤ i ∧ i ≤ b.stop := by
  refine ⟨List.map_flatMap, fun b member => ?_⟩
  have framed := TokenStream.framed_of_mem member
  constructor
  · rw [blockViolations, blockViolations, blockFindings_alone framed, List.map_map, List.map_map]
    refine List.map_congr_left fun f found => ?_
    exact violation_moved framed path root info fun i site =>
      framed.le_stop_of_lt_size (lt_size_of_mem_blockFindings c found site)
  · intro v reported i named
    rw [blockViolations, blockFindings_alone framed, List.map_map] at reported
    obtain ⟨f, found, rfl⟩ := List.mem_map.mp reported
    rw [Function.comp_apply, token_violation, Finding.moved] at named
    cases site : f.site with
    | start =>
      rw [site] at named
      cases named
    | token j =>
      rw [site] at named
      obtain rfl : b.start + j = i := Option.some.inj named
      have inside := lt_size_of_mem_blockFindings c found site
      exact ⟨Nat.le_add_right _ _, framed.le_stop_of_lt_size inside⟩

/-- A class whose last word is an include that names nothing, with names around it. -/
def danglingInclude : TokenStream :=
  .ofList [.new .name "before" 1 1, .new .classKw "class" 2 1, .new .name "web" 2 7,
    .new .lbrace "\x7b" 2 11, .new .name "include" 3 3, .new .rbrace "\x7d" 4 1,
    .new .name "behind" 5 1]

/-- The include takes the closing brace for its class, in the file as in the class alone. -/
theorem check_self_contained_of_danglingInclude :
    ∃ b ∈ danglingInclude.definitions ++ danglingInclude.nodes,
      (blockViolations {} "web.pp" "." danglingInclude b).map Violation.token = [some 5] ∧
        (blockViolations {} "web.pp" "." (b.alone danglingInclude) b.rebased).map
          Violation.token = [some 4] ∧
        blockViolations {} "web.pp" "." danglingInclude b =
          (blockViolations {} "web.pp" "." (b.alone danglingInclude) b.rebased).map
            (Violation.moved b.start) := by
  have member : (⟨1, 5, .classDef 2 none⟩ : Block) ∈
      danglingInclude.definitions ++ danglingInclude.nodes := by decide +kernel
  exact ⟨_, member, by decide +kernel, by decide +kernel,
    ((check_self_contained {} "web.pp" "." danglingInclude).2 _ member).1⟩

end Layering

end ManifestLint
