import ManifestLint.Proofs.Layering.Pattern
import ManifestLint.Proofs.Layout.View

/-!
# Findings and layout

Layout changes no finding. In streams with the same code every family of findings gives the same
messages and repairs at aligned tokens, in the same order, and hence so does the whole rule. Both
streams have the same patterns to strip, so their checks come to an end together.
-/
namespace ManifestLint

open TokenStream

/-- Violations that differ at most in the position of their token, which is that of the same code
token if there is one. -/
structure Violation.Alike (s t : TokenStream) (v w : Violation) : Prop where
  code : v.code = w.code
  rule : v.rule = w.rule
  severity : v.severity = w.severity
  location : v.location = w.location
  message : v.message = w.message
  fixTag : v.fixTag = w.fixTag
  token : Option.Rel (s.Aligned t) v.token w.token

namespace Layering

/-- Sites at the same code token, or both without a token. -/
inductive Site.Alike (s t : TokenStream) : Site → Site → Prop
  | token {i j : Nat} (aligned : s.Aligned t i j) : Alike s t (.token i) (.token j)
  | start : Alike s t .start .start

/-- Findings that differ at most in the position of their token. -/
structure Finding.Alike (s t : TokenStream) (f g : Finding) : Prop where
  site : Site.Alike s t f.site g.site
  message : f.message = g.message
  repair : f.repair = g.repair

variable {s t : TokenStream} {i j : Nat}

theorem Finding.at_alike (aligned : s.Aligned t i j) (message : String) :
    Finding.Alike s t (.at i message) (.at j message) := ⟨.token aligned, rfl, rfl⟩

theorem Finding.fixable_alike (aligned : s.Aligned t i j) (message : String) (repair : Repair) :
    Finding.Alike s t (.fixable i message repair) (.fixable j message repair) :=
  ⟨.token aligned, rfl, rfl⟩

theorem Finding.atStart_alike (message : String) :
    Finding.Alike s t (.atStart message) (.atStart message) := ⟨.start, rfl, rfl⟩

/-! ### Nodes, token by token -/

theorem nodeStatement_of_layout (c : Conventions) (title : String) (layout : s.isCode i = false) :
    nodeStatement c s title i = none := by
  simp [nodeStatement, isLookup_of_layout layout, isLegacyLookup_of_layout layout,
    includedClass?_of_layout layout, declaredClass?_of_layout layout,
    isResourceType_of_layout layout]

theorem nodeStatement_rel (same : s.SameCode t) (c : Conventions) (title : String)
    (aligned : s.Aligned t i j) :
    Option.Rel (Finding.Alike s t) (nodeStatement c s title i) (nodeStatement c t title j) := by
  have included := same.includedClass?_rel aligned
  have declared := same.declaredClass?_rel aligned
  rw [nodeStatement, nodeStatement, same.isLookup_eq aligned, same.isLegacyLookup_eq aligned,
    same.isResourceType_eq aligned, same.text_eq aligned]
  split
  · exact .some (Finding.at_alike aligned _)
  split
  · exact .some (Finding.at_alike aligned _)
  generalize s.includedClass? i = target, t.includedClass? j = target' at included
  -- A statement is reported at the class it names, which is aligned as well.
  cases included with
  | some pair =>
    dsimp only
    rw [same.text_eq pair]
    exact .some (Finding.at_alike pair _)
  | none =>
    generalize s.declaredClass? i = target, t.declaredClass? j = target' at declared
    cases declared with
    | some pair =>
      dsimp only
      rw [same.text_eq pair]
      exact .some (Finding.at_alike pair _)
    | none =>
      dsimp only
      split
      · exact .some (Finding.at_alike aligned _)
      · exact .none

theorem nodeTitle_alike (same : s.SameCode t) (c : Conventions) (aligned : s.Aligned t i j) :
    List.Forall₂ (Finding.Alike s t) (nodeTitle c s i) (nodeTitle c t j) := by
  rw [nodeTitle, nodeTitle, same.text_eq aligned, same.isKind_eq aligned]
  split
  · refine List.rel_append (List.rel_append ?_ ?_) ?_
    · rw [startProblem, startProblem]
      split
      · exact .nil
      · exact .cons (Finding.fixable_alike aligned _ _) .nil
    · rw [endProblem, endProblem]
      split
      · exact .cons (Finding.fixable_alike aligned _ _) .nil
      · exact .nil
    · rw [domainProblem, domainProblem]
      split
      · exact .nil
      · dsimp only
        split
        · exact .cons (Finding.at_alike aligned _) .nil
        · exact .cons (Finding.fixable_alike aligned _ _) .nil
  · exact .cons (Finding.at_alike aligned _) .nil

section Families

variable (same : s.SameCode t) {a b : Block} (alike : Block.Alike s t a b) (c : Conventions)
include same

/-! ### Data access -/

theorem keySuffix_eq (aligned : s.Aligned t i j) : keySuffix s i = keySuffix t j := by
  have argument : Option.Rel (s.Aligned t) ((s.next? i).bind s.next?) ((t.next? j).bind t.next?) :=
    rel_bind (fun _ _ next => same.next?_rel next) (same.next?_rel aligned)
  rw [keySuffix, keySuffix]
  generalize (s.next? i).bind s.next? = found, (t.next? j).bind t.next? = found' at argument
  cases argument with
  | none => rfl
  | some pair =>
    dsimp only
    rw [same.isKind_eq pair, same.isKind_eq pair, same.text_eq pair]

include alike

theorem withoutLookups_alike :
    List.Forall₂ (Finding.Alike s t) (withoutLookups s a) (withoutLookups t b) := by
  simp only [withoutLookups, alike.kind.label_eq, same.name_eq alike]
  refine filterMap_rel (same.forall₂_block alike) ?_ ?_ fun i j aligned => ?_
  · intro i layout
    simp [isLookup_of_layout layout, isLegacyLookup_of_layout layout]
  · intro j layout
    simp [isLookup_of_layout layout, isLegacyLookup_of_layout layout]
  · rw [same.isLookup_eq aligned, same.isLegacyLookup_eq aligned, same.text_eq aligned,
      keySuffix_eq same aligned]
    split
    · exact .some (Finding.at_alike aligned _)
    split
    · exact .some (Finding.at_alike aligned _)
    · exact .none

theorem parameterDefaults_alike :
    List.Forall₂ (Finding.Alike s t) (parameterDefaults s a) (parameterDefaults t b) := by
  simp only [parameterDefaults, same.name_eq alike]
  refine List.rel_filterMap (fun p q pair => ?_) (same.parameters_alike alike)
  have legacy := rel_find? (fun _ _ aligned => same.isLegacyLookup_eq aligned) pair.value
  rw [any_eq_of_forall₂ (fun _ _ aligned => same.isLookup_eq aligned) pair.value, pair.name]
  split
  · exact .none
  · generalize p.value.find? s.isLegacyLookup = call, q.value.find? t.isLegacyLookup = call'
      at legacy
    cases legacy with
    | none => exact .some (Finding.at_alike pair.token _)
    | some call =>
      dsimp only
      rw [same.text_eq call]
      exact .some (Finding.at_alike pair.token _)

theorem inDefault_eq (aligned : s.Aligned t i j) :
    (a.parameters s).inDefault i = (b.parameters t).inDefault j := by
  refine any_eq_of_forall₂ (fun p q pair => ?_) (same.parameters_alike alike)
  -- A token belongs to a default exactly when its partner does, since partners are unique.
  have members := List.rel_mem (Aligned.biUnique s t) aligned pair.value
  rw [Bool.eq_iff_iff, List.contains_iff_mem, List.contains_iff_mem]
  exact members

theorem lookupsOutsideDefaults_alike :
    List.Forall₂ (Finding.Alike s t) (lookupsOutsideDefaults s a)
      (lookupsOutsideDefaults t b) := by
  simp only [lookupsOutsideDefaults, same.name_eq alike]
  refine filterMap_rel (same.forall₂_block alike) ?_ ?_ fun i j aligned => ?_
  · intro i layout
    simp [isLookup_of_layout layout, isLegacyLookup_of_layout layout]
  · intro j layout
    simp [isLookup_of_layout layout, isLegacyLookup_of_layout layout]
  · rw [same.isLookup_eq aligned, same.isLegacyLookup_eq aligned, same.text_eq aligned,
      keySuffix_eq same aligned, inDefault_eq same alike aligned]
    split
    · exact .some (Finding.at_alike aligned _)
    · exact .none

theorem withoutLegacyValidates_alike :
    List.Forall₂ (Finding.Alike s t) (withoutLegacyValidates s a)
      (withoutLegacyValidates t b) := by
  simp only [withoutLegacyValidates, alike.kind.label_eq, same.name_eq alike]
  refine List.rel_map (fun i j aligned => ?_) (same.legacyValidates_rel alike)
  rw [same.text_eq aligned]
  exact Finding.at_alike aligned _

/-! ### Dependencies -/

theorem profileIncludes_alike :
    List.Forall₂ (Finding.Alike s t) (profileIncludes c s a) (profileIncludes c t b) := by
  simp only [profileIncludes, same.name_eq alike]
  refine List.rel_filterMap (fun i j aligned => ?_) (same.includedClasses_rel alike)
  rw [same.text_eq aligned]
  split
  · exact .none
  · exact .some (Finding.at_alike aligned _)

theorem roleIncludes_alike :
    List.Forall₂ (Finding.Alike s t) (roleIncludes c s a) (roleIncludes c t b) := by
  simp only [roleIncludes, same.name_eq alike]
  refine List.rel_filterMap (fun i j aligned => ?_) (same.includedClasses_rel alike)
  rw [same.text_eq aligned]
  split
  · exact .none
  · exact .some (Finding.at_alike aligned _)

theorem roleResourceOnce_alike :
    List.Forall₂ (Finding.Alike s t) (roleResourceOnce c s a) (roleResourceOnce c t b) := by
  simp only [roleResourceOnce, same.name_eq alike, (same.resourcesOf_rel alike _).length_eq]
  split
  · exact .nil
  · exact .cons (Finding.atStart_alike _) .nil

theorem roleOtherResources_alike :
    List.Forall₂ (Finding.Alike s t) (roleOtherResources c s a) (roleOtherResources c t b) := by
  have names : (a.declaredResources s).map (fun i => Name.normalize (s.text i)) =
      (b.declaredResources t).map fun j => Name.normalize (t.text j) :=
    map_eq_of_forall₂ (fun _ _ aligned => by rw [same.text_eq aligned])
      (same.declaredResources_rel alike)
  simp only [roleOtherResources, same.name_eq alike, names]
  split
  · exact .nil
  · exact .cons (Finding.atStart_alike _) .nil

theorem roleResourceElsewhere_alike :
    List.Forall₂ (Finding.Alike s t) (roleResourceElsewhere c s a)
      (roleResourceElsewhere c t b) := by
  simp only [roleResourceElsewhere, same.name_eq alike]
  refine List.rel_map (fun i j aligned => ?_) (same.resourcesOf_rel alike _)
  exact Finding.at_alike aligned _

theorem foreignIncludes_alike :
    List.Forall₂ (Finding.Alike s t) (foreignIncludes s a) (foreignIncludes t b) := by
  simp only [foreignIncludes, same.name_eq alike, same.module_eq alike]
  refine List.rel_filterMap (fun i j aligned => ?_) (same.includedClasses_rel alike)
  rw [same.text_eq aligned]
  split
  · exact .none
  · exact .some (Finding.at_alike aligned _)

theorem foreignDeclarations_alike :
    List.Forall₂ (Finding.Alike s t) (foreignDeclarations s a) (foreignDeclarations t b) := by
  simp only [foreignDeclarations, same.name_eq alike, same.module_eq alike, alike.kind.label_eq,
    alike.kind.isDefinedType_eq]
  refine List.rel_filterMap (fun i j aligned => ?_) (same.declaredClasses_rel alike)
  rw [same.text_eq aligned]
  split
  · exact .none
  split
  · exact .none
  · exact .some (Finding.at_alike aligned _)

theorem deprecatedDefines_alike :
    List.Forall₂ (Finding.Alike s t) (deprecatedDefines c s a) (deprecatedDefines c t b) := by
  simp only [deprecatedDefines, alike.kind.label_eq, same.name_eq alike]
  -- The defines are looked for one by one, so each is paired with itself.
  refine List.rel_filterMap (R := Eq) (fun define other equal => ?_)
    (List.forall₂_same.mpr fun _ _ => rfl)
  subst equal
  have absent : (a.resourcesOf s define).isEmpty = (b.resourcesOf t define).isEmpty := by
    have related := same.resourcesOf_rel alike define
    generalize a.resourcesOf s define = found, b.resourcesOf t define = found' at related
    cases related <;> rfl
  rw [absent]
  split
  · exact .none
  · exact .some (Finding.atStart_alike _)

/-! ### Nodes -/

theorem nodeBody_alike :
    List.Forall₂ (Finding.Alike s t) (nodeBody c s a) (nodeBody c t b) := by
  simp only [nodeBody, same.title_eq alike]
  refine filterMap_rel (same.forall₂_block alike) ?_ ?_ fun i j aligned => ?_
  · exact fun i layout => nodeStatement_of_layout c (b.title t) layout
  · exact fun j layout => nodeStatement_of_layout c (b.title t) layout
  · exact nodeStatement_rel same c (b.title t) aligned

theorem nodeTitles_alike :
    List.Forall₂ (Finding.Alike s t) (nodeTitles c s a) (nodeTitles c t b) :=
  List.rel_flatMap (SameCode.titleTokens_rel alike)
    fun _ _ aligned => nodeTitle_alike same c aligned

/-! ### Blocks -/

theorem layerFindings_alike (layer : Layer) :
    List.Forall₂ (Finding.Alike s t) (layerFindings c s a layer) (layerFindings c t b layer) := by
  have lookups := withoutLookups_alike same alike
  have declarations := foreignDeclarations_alike same alike
  have resources := roleResourceElsewhere_alike same alike c
  cases layer with
  | profile =>
    have fetched := List.rel_append (parameterDefaults_alike same alike)
      (lookupsOutsideDefaults_alike same alike)
    exact List.rel_append (List.rel_append fetched (profileIncludes_alike same alike c)) resources
  | role =>
    have included := List.rel_append lookups (roleIncludes_alike same alike c)
    exact List.rel_append (List.rel_append included (roleResourceOnce_alike same alike c))
      (roleOtherResources_alike same alike c)
  | plainClass =>
    have included := List.rel_append lookups (foreignIncludes_alike same alike)
    exact List.rel_append (List.rel_append included declarations) resources
  | definedType =>
    refine List.rel_append lookups ?_
    rw [same.module_eq alike]
    split
    · exact .nil
    · exact declarations
  | node => exact List.rel_append (nodeBody_alike same alike c) (nodeTitles_alike same alike c)

theorem blockFindings_alike :
    List.Forall₂ (Finding.Alike s t) (blockFindings c s a) (blockFindings c t b) := by
  rw [blockFindings, blockFindings, same.layer_eq alike, alike.kind.isNode_eq]
  refine List.rel_append (layerFindings_alike same alike c _) ?_
  split
  · exact .nil
  · exact List.rel_append (withoutLegacyValidates_alike same alike)
      (deprecatedDefines_alike same alike c)

end Families

/-! ### Files -/

theorem findings_alike (same : s.SameCode t) (c : Conventions) (path root : String) :
    List.Forall₂ (Finding.Alike s t) (findings c (.ofStream path s root))
      (findings c (.ofStream path t root)) :=
  List.rel_flatMap (List.rel_append same.definitions_alike same.nodes_alike)
    fun _ _ alike => blockFindings_alike same alike c

theorem violation_alike (same : s.SameCode t) (path root : String) (rule : RuleInfo)
    {f g : Finding} (alike : Finding.Alike s t f g) :
    Violation.Alike s t (f.violation (.ofStream path s root) rule)
      (g.violation (.ofStream path t root) rule) := by
  obtain ⟨site, message, repair⟩ := f
  obtain ⟨site', message', repair'⟩ := g
  obtain ⟨sites, rfl, rfl⟩ := alike
  cases sites with
  | start => exact ⟨rfl, rfl, rfl, rfl, rfl, rfl, .none⟩
  | @token i j aligned =>
    obtain ⟨one, other, here, here', _, _, line, column⟩ := same.exists_tokens aligned
    have place : (FileContext.ofStream path s root).locationOf i =
        (FileContext.ofStream path t root).locationOf j := by
      simp only [FileContext.locationOf, FileContext.ofStream, here, here', line, column]
    exact ⟨rfl, rfl, rfl, place, rfl, rfl, .some aligned⟩

theorem patterns_eq_of_sameCode (same : s.SameCode t) : s.patterns = t.patterns := by
  have titles : List.Forall₂ (s.Aligned t) s.nodeTitles t.nodeTitles :=
    List.rel_flatMap same.nodes_alike fun _ _ alike => SameCode.titleTokens_rel alike
  have regexes : List.Forall₂ (s.Aligned t) (s.nodeTitles.filter fun i => s.isKind i .regex)
      (t.nodeTitles.filter fun j => t.isKind j .regex) :=
    List.rel_filter (fun _ _ aligned => by simp only [same.isKind_eq aligned]) titles
  exact map_eq_of_forall₂ (fun _ _ aligned => same.text_eq aligned) regexes

/-- Layout never decides whether a check comes to an end: in streams with the same code stripping
ends on the titles of both or of neither. -/
theorem strippingEnds_iff_of_sameCode (same : s.SameCode t) (domains : List String) :
    s.StrippingEnds domains ↔ t.StrippingEnds domains := by
  rw [strippingEnds_iff, strippingEnds_iff, patterns_eq_of_sameCode same]

/-- Layout never changes the diagnosis: streams with the same code get the same violations in the
same order, and those that name a token name the same code token. Stripping the titles comes to an
end in both or in neither (`strippingEnds_iff_of_sameCode`). -/
theorem check_alike_of_sameCode (same : s.SameCode t) (c : Conventions) (path root : String) :
    List.Forall₂ (Violation.Alike s t) (check c (.ofStream path s root))
      (check c (.ofStream path t root)) :=
  List.rel_map (fun _ _ alike => violation_alike same path root info alike)
    (findings_alike same c path root)

/-- A node with layout behind its keyword and within its body. -/
def nodeWith (behind within : List Token) : TokenStream :=
  .ofList (.new .nodeKw "node" 1 1 :: behind ++ [.new .regex "db1\\.wmnet$" 2 3,
    .new .lbrace "\x7b" 2 20] ++ within ++ [.new .name "include" 4 3, .new .name "db" 4 11,
    .new .rbrace "\x7d" 5 1])

def crampedNode : TokenStream := nodeWith [] []

def spacedNode : TokenStream :=
  nodeWith [.new .comment "# db" 1 6, .new .newline "\n" 1 10] [.new .newline "\n" 2 21]

/-- Comments and line ends move the tokens of violations and change nothing else. -/
theorem check_alike_of_spacedNode :
    crampedNode.SameCode spacedNode ∧
      (check {} (.ofStream "site.pp" crampedNode ".")).map Violation.token =
        [some 4, some 1, some 1, some 1] ∧
      (check {} (.ofStream "site.pp" spacedNode ".")).map Violation.token =
        [some 7, some 3, some 3, some 3] ∧
      List.Forall₂ (Violation.Alike crampedNode spacedNode)
        (check {} (.ofStream "site.pp" crampedNode "."))
        (check {} (.ofStream "site.pp" spacedNode ".")) :=
  ⟨by decide +kernel, by decide +kernel, by decide +kernel,
    check_alike_of_sameCode (by decide +kernel) {} "site.pp" "."⟩

end Layering

end ManifestLint
