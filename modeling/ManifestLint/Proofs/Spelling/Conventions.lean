import ManifestLint.Proofs.Cut.Findings
import ManifestLint.Proofs.Layering.Conformance
import ManifestLint.Proofs.Spelling.Absolute

/-!
# Absolute names in conventions

A leading `::` on the role resource or on a deprecated define never matters, because both are
normalised before they are compared. The two lists of exceptions, the classes a profile may include
and the resources a node may declare, are compared as they are written, with names that have lost
their `::`. So conventions that differ in leading `::` report at the same tokens of a block exactly
if both make the same exceptions for what the block includes and declares.
-/
namespace ManifestLint

/-- Two spellings of a name: the same, or one with a single leading `::` and one without. -/
def Name.Respelled (one two : String) : Prop :=
  one = two ∨ ¬ "::".toList <+: one.toList ∧ two = "::" ++ one ∨
    ¬ "::".toList <+: two.toList ∧ one = "::" ++ two

/-- Conventions that differ in leading `::` only. -/
structure Conventions.Respelled (c d : Conventions) : Prop where
  profileModule : c.profileModule = d.profileModule
  roleModule : c.roleModule = d.roleModule
  profileIncludeModules : c.profileIncludeModules = d.profileIncludeModules
  disallowedDomains : c.disallowedDomains = d.disallowedDomains
  roleResource : Name.Respelled c.roleResource d.roleResource
  deprecatedDefines : List.Forall₂ Name.Respelled c.deprecatedDefines d.deprecatedDefines
  profileIncludeClasses :
    List.Forall₂ Name.Respelled c.profileIncludeClasses d.profileIncludeClasses
  nodeAllowedResources : List.Forall₂ Name.Respelled c.nodeAllowedResources d.nodeAllowedResources

theorem Name.Respelled.normalize_eq {one two : String} (respelled : Name.Respelled one two) :
    Name.normalize one = Name.normalize two := by
  rcases respelled with rfl | ⟨relative, rfl⟩ | ⟨relative, rfl⟩
  · rfl
  · rw [Name.normalize_topScope, Name.normalize_of_relative relative]
  · rw [Name.normalize_topScope, Name.normalize_of_relative relative]

namespace Layering

/-- What two conventions both exempt, or neither, in a block: the classes that a profile includes
from elsewhere, and the resources that a node declares. -/
structure SameExceptions (c d : Conventions) (s : TokenStream) (b : Block) : Prop where
  classes : b.layer s c = .profile → ∀ i ∈ b.includedClasses s,
    s.ownerAt i ≠ c.profileModule → s.ownerAt i ∉ c.profileIncludeModules →
      (s.nameAt i ∈ c.profileIncludeClasses ↔ s.nameAt i ∈ d.profileIncludeClasses)
  resources : b.layer s c = .node → ∀ i ∈ b.declaredResources s, s.includedClass? i = none →
    (s.nameAt i ∈ c.nodeAllowedResources ↔ s.nameAt i ∈ d.nodeAllowedResources)

/-! ### Reports that leave out different tokens -/

theorem countP_lt_countP {α : Type} {p q : α → Bool} {list : List α} {a : α}
    (weaker : ∀ b ∈ list, p b = true → q b = true) (member : a ∈ list) (fails : p a = false)
    (holds : q a = true) : list.countP p < list.countP q := by
  obtain ⟨before, after, rfl⟩ := List.append_of_mem member
  have earlier : before.countP p ≤ before.countP q :=
    List.countP_mono_left fun b there => weaker b (List.mem_append_left _ there)
  have later : after.countP p ≤ after.countP q :=
    List.countP_mono_left fun b there =>
      weaker b (List.mem_append_right _ (List.mem_cons_of_mem a there))
  rw [List.countP_append, List.countP_append, List.countP_cons_of_pos holds,
    List.countP_cons_of_neg (by rw [fails]; exact Bool.false_ne_true)]
  omega

section OwnToken

variable {f g : Nat → Option Site} {list : List Nat}

/-- A token that is reported on its own account by one report only is counted once more there. -/
theorem filterMap_ne_of_own (own : ∀ j, f j = g j ∨ g j = none ∨ g j = some (.token j)) {i : Nat}
    (member : i ∈ list) (here : f i = some (.token i)) (there : g i = none) :
    list.filterMap f ≠ list.filterMap g := by
  intro equal
  have counts := congrArg (List.count (Site.token i)) equal
  rw [List.count_filterMap, List.count_filterMap] at counts
  have fewer : list.countP (fun j => g j == some (.token i)) <
      list.countP fun j => f j == some (.token i) := by
    refine countP_lt_countP (fun j _ reported => ?_) member (by simp [there]) (by simp [here])
    rw [beq_iff_eq] at reported ⊢
    rcases own j with same | silent | self
    · exact same.trans reported
    · rw [silent] at reported
      cases reported
    · -- Who reports this token on its own account is the token itself, and it does not.
      obtain rfl : j = i := Site.token.inj (Option.some.inj (self.symm.trans reported))
      rw [there] at reported
      cases reported
  omega

theorem filterMap_eq_iff_of_own
    (own : ∀ i, f i = g i ∨ f i = some (.token i) ∧ g i = none ∨
      f i = none ∧ g i = some (.token i)) :
    list.filterMap f = list.filterMap g ↔ ∀ i ∈ list, f i = g i := by
  constructor
  · intro equal i member
    rcases own i with same | ⟨here, there⟩ | ⟨here, there⟩
    · exact same
    · refine absurd equal (filterMap_ne_of_own (fun j => ?_) member here there)
      rcases own j with same | ⟨_, silent⟩ | ⟨_, self⟩
      · exact Or.inl same
      · exact Or.inr (Or.inl silent)
      · exact Or.inr (Or.inr self)
    · refine absurd equal.symm (filterMap_ne_of_own (fun j => ?_) member there here)
      rcases own j with same | ⟨self, _⟩ | ⟨silent, _⟩
      · exact Or.inl same.symm
      · exact Or.inr (Or.inr self)
      · exact Or.inr (Or.inl silent)
  · intro same
    exact List.filterMap_congr same

end OwnToken

theorem filterMap_eq_of_forall₂ {α β : Type} {R : α → α → Prop} {f g : α → Option β}
    {one two : List α} (related : List.Forall₂ R one two) (same : ∀ a b, R a b → f a = g b) :
    one.filterMap f = two.filterMap g := by
  induction related with
  | nil => rfl
  | cons here _ ih => rw [List.filterMap_cons, List.filterMap_cons, same _ _ here, ih]

/-- Two reports at one place are the same exactly if both make an exception or neither does. -/
theorem unless_eq_iff {p q : Prop} [Decidable p] [Decidable q] (site : Site) :
    (if p then none else some site) = (if q then none else some site) ↔ (p ↔ q) := by
  by_cases one : p <;> by_cases two : q <;> simp [one, two]

/-! ### Families that normalise -/

variable {c d : Conventions} {s : TokenStream} {b : Block} {i : Nat}

theorem resourcesOf_respelled {one two : String} (names : Name.Respelled one two) :
    b.resourcesOf s one = b.resourcesOf s two := by
  rw [Block.resourcesOf, Block.resourcesOf, names.normalize_eq]

section Respelled

variable (respelled : c.Respelled d)
include respelled

theorem layer_respelled : b.layer s c = b.layer s d := by
  rw [Block.layer, Block.layer, Block.isProfile, Block.isProfile, Block.isRole, Block.isRole,
    respelled.profileModule, respelled.roleModule]

theorem roleIncludes_respelled : roleIncludes c s b = roleIncludes d s b := by
  have allowed : roleMayInclude c = roleMayInclude d := by
    funext target
    rw [roleMayInclude, roleMayInclude, respelled.roleModule, respelled.profileModule]
  rw [roleIncludes, roleIncludes, allowed]

theorem roleResourceOnce_respelled : roleResourceOnce c s b = roleResourceOnce d s b := by
  simp only [roleResourceOnce, respelled.roleResource.normalize_eq]

theorem roleOtherResources_respelled : roleOtherResources c s b = roleOtherResources d s b := by
  simp only [roleOtherResources, respelled.roleResource.normalize_eq]

theorem nodeTitles_respelled : nodeTitles c s b = nodeTitles d s b := by
  have titles : nodeTitle c s = nodeTitle d s := by
    funext i
    simp only [nodeTitle, domainProblem, respelled.disallowedDomains]
  rw [nodeTitles, nodeTitles, titles]

/-- The message quotes the role resource as it is written, but the places are the same. -/
theorem sites_roleResourceElsewhere :
    (roleResourceElsewhere c s b).map Finding.site =
      (roleResourceElsewhere d s b).map Finding.site := by
  simp only [roleResourceElsewhere, resourcesOf_respelled respelled.roleResource, List.map_map]
  rfl

theorem sites_deprecatedDefines :
    (deprecatedDefines c s b).map Finding.site = (deprecatedDefines d s b).map Finding.site := by
  rw [deprecatedDefines, deprecatedDefines, List.map_filterMap, List.map_filterMap]
  refine filterMap_eq_of_forall₂ respelled.deprecatedDefines fun one two names => ?_
  rw [resourcesOf_respelled names]
  cases (b.resourcesOf s two).isEmpty <;> rfl

end Respelled

/-! ### Exceptions -/

theorem profileMayInclude_iff (c : Conventions) (s : TokenStream) (i : Nat) :
    profileMayInclude c (s.nameAt i) = true ↔
      s.ownerAt i = c.profileModule ∨ s.ownerAt i ∈ c.profileIncludeModules ∨
        s.nameAt i ∈ c.profileIncludeClasses := by
  simp only [profileMayInclude, TokenStream.ownerAt, Bool.or_eq_true, beq_iff_eq,
    List.contains_eq_mem, decide_eq_true_eq, or_assoc]

theorem sites_unless {list : List Nat} {allowed : Nat → Bool} {message : Nat → String} :
    (list.filterMap fun i => if allowed i then none else some (.at i (message i))).map
        Finding.site =
      list.filterMap fun i => if allowed i = true then none else some (.token i) := by
  rw [List.map_filterMap]
  refine List.filterMap_congr fun i _ => ?_
  cases allowed i <;> rfl

theorem sites_profileIncludes (c : Conventions) (s : TokenStream) (b : Block) :
    (profileIncludes c s b).map Finding.site = (b.includedClasses s).filterMap fun i =>
      if profileMayInclude c (s.nameAt i) = true then none else some (.token i) :=
  sites_unless

theorem sites_profileIncludes_eq_iff (respelled : c.Respelled d) :
    (profileIncludes c s b).map Finding.site = (profileIncludes d s b).map Finding.site ↔
      ∀ i ∈ b.includedClasses s, s.ownerAt i ≠ c.profileModule →
        s.ownerAt i ∉ c.profileIncludeModules →
          (s.nameAt i ∈ c.profileIncludeClasses ↔ s.nameAt i ∈ d.profileIncludeClasses) := by
  rw [sites_profileIncludes, sites_profileIncludes, filterMap_eq_iff_of_own]
  · refine forall_congr' fun i => imp_congr_right fun _ => ?_
    rw [unless_eq_iff, profileMayInclude_iff, profileMayInclude_iff, ← respelled.profileModule,
      ← respelled.profileIncludeModules]
    by_cases own : s.ownerAt i = c.profileModule
    · simp [own]
    · by_cases listed : s.ownerAt i ∈ c.profileIncludeModules <;> simp [own, listed]
  · intro i
    split <;> split <;> simp

/-- A resource that includes nothing is allowed in a node or reported. -/
theorem site_nodeStatement_of_resource (c : Conventions) (title : String)
    (resource : s.isResourceType i = true) (other : s.includedClass? i = none) :
    (nodeStatement c s title i).map Finding.site =
      if s.nameAt i ∈ c.nodeAllowedResources then none else some (.token i) := by
  obtain ⟨named, _⟩ := Bool.and_eq_true_iff.mp resource
  obtain ⟨name, braced⟩ := Bool.and_eq_true_iff.mp named
  -- A brace follows, so no parenthesis does, and a name is no keyword.
  have noCall : s.isFunctionCall i = false := by
    cases next : s.next? i with
    | none => simp [TokenStream.isFunctionCall, TokenStream.nextIs, next]
    | some j =>
      have brace : s.isKind j .lbrace = true := by simpa [TokenStream.nextIs, next] using braced
      have noParen : s.isKind j .lparen = false := TokenStream.isKind_eq_false brace (by decide)
      simp [TokenStream.isFunctionCall, TokenStream.nextIs, next, noParen]
  have noClass : s.declaredClass? i = none := by
    have noKeyword : s.isKind i .classKw = false := TokenStream.isKind_eq_false name (by decide)
    simp [TokenStream.declaredClass?, noKeyword]
  simp only [nodeStatement, TokenStream.isLookup, TokenStream.isLegacyLookup, noCall, other,
    noClass, resource, TokenStream.nameAt]
  by_cases allowed : Name.normalize (s.text i) ∈ c.nodeAllowedResources <;>
    simp [allowed, Finding.at]

theorem nodeStatement_of_other (c d : Conventions) (title : String)
    (other : ¬ (s.isResourceType i = true ∧ s.includedClass? i = none)) :
    nodeStatement c s title i = nodeStatement d s title i := by
  simp only [nodeStatement]
  cases included : s.includedClass? i with
  | some target => rfl
  | none =>
    have noResource : s.isResourceType i = false := by simpa [included] using other
    simp only [noResource, Bool.false_and]

theorem sites_nodeBody_eq_iff :
    (nodeBody c s b).map Finding.site = (nodeBody d s b).map Finding.site ↔
      ∀ i ∈ b.declaredResources s, s.includedClass? i = none →
        (s.nameAt i ∈ c.nodeAllowedResources ↔ s.nameAt i ∈ d.nodeAllowedResources) := by
  rw [nodeBody, nodeBody, List.map_filterMap, List.map_filterMap, filterMap_eq_iff_of_own]
  · simp only [Block.declaredResources, List.mem_filter, and_imp]
    refine forall_congr' fun i => imp_congr_right fun _ => ?_
    by_cases resource : s.isResourceType i = true ∧ s.includedClass? i = none
    · rw [site_nodeStatement_of_resource c _ resource.1 resource.2,
        site_nodeStatement_of_resource d _ resource.1 resource.2, unless_eq_iff]
      exact ⟨fun same _ _ => same, fun same => same resource.1 resource.2⟩
    · rw [nodeStatement_of_other c d _ resource]
      exact ⟨fun _ type excluded => absurd ⟨type, excluded⟩ resource, fun _ => rfl⟩
  · intro i
    by_cases resource : s.isResourceType i = true ∧ s.includedClass? i = none
    · rw [site_nodeStatement_of_resource c _ resource.1 resource.2,
        site_nodeStatement_of_resource d _ resource.1 resource.2]
      split <;> split <;> simp
    · exact Or.inl (by rw [nodeStatement_of_other c d _ resource])

/-! ### Blocks -/

section Blocks

variable (respelled : c.Respelled d)
include respelled

theorem sites_deprecations :
    (deprecations c s b).map Finding.site = (deprecations d s b).map Finding.site := by
  rw [deprecations, deprecations, List.map_append, List.map_append,
    sites_deprecatedDefines respelled]

theorem sites_layerFindings_eq_iff :
    (layerFindings c s b (b.layer s c)).map Finding.site =
        (layerFindings d s b (b.layer s c)).map Finding.site ↔
      SameExceptions c d s b := by
  cases layer : b.layer s c with
  | profile =>
    simp only [layerFindings, List.map_append, sites_roleResourceElsewhere respelled,
      List.append_left_inj, List.append_right_inj, sites_profileIncludes_eq_iff respelled]
    exact ⟨fun same => ⟨fun _ => same, by simp [layer]⟩, fun same => same.classes layer⟩
  | role =>
    simp only [layerFindings, roleIncludes_respelled respelled,
      roleResourceOnce_respelled respelled, roleOtherResources_respelled respelled, true_iff]
    exact ⟨by simp [layer], by simp [layer]⟩
  | plainClass =>
    simp only [layerFindings, List.map_append, sites_roleResourceElsewhere respelled, true_iff]
    exact ⟨by simp [layer], by simp [layer]⟩
  | definedType =>
    simp only [layerFindings, respelled.profileModule, true_iff]
    exact ⟨by simp [layer], by simp [layer]⟩
  | node =>
    simp only [layerFindings, List.map_append, nodeTitles_respelled respelled,
      List.append_left_inj, sites_nodeBody_eq_iff]
    exact ⟨fun same => ⟨by simp [layer], fun _ => same⟩, fun same => same.resources layer⟩

theorem sites_blockFindings_eq_iff :
    (blockFindings c s b).map Finding.site = (blockFindings d s b).map Finding.site ↔
      SameExceptions c d s b := by
  have others : (if b.kind.isNode then [] else deprecations c s b).map Finding.site =
      (if b.kind.isNode then [] else deprecations d s b).map Finding.site := by
    cases b.kind.isNode with
    | true => rfl
    | false => exact sites_deprecations respelled
  rw [blockFindings, blockFindings, List.map_append, List.map_append, others,
    List.append_left_inj, ← layer_respelled respelled, sites_layerFindings_eq_iff respelled]

end Blocks

theorem Site.token?_injective : Function.Injective Site.token? := by
  intro one two same
  cases one <;> cases two <;> simp_all [Site.token?]

theorem tokens_blockViolations (c : Conventions) (path root : String) (s : TokenStream)
    (b : Block) : (blockViolations c path root s b).map Violation.token =
      ((blockFindings c s b).map Finding.site).map Site.token? := by
  rw [blockViolations, List.map_map, List.map_map]
  exact List.map_congr_left fun f _ => token_violation _ info f

theorem tokens_check (c : Conventions) (path root : String) (s : TokenStream) :
    (check c (.ofStream path s root)).map Violation.token =
      (s.definitions ++ s.nodes).flatMap fun b =>
        (blockViolations c path root s b).map Violation.token := by
  rw [check, findings, List.map_flatMap, List.map_flatMap]
  rfl

/-- A leading `::` in the conventions matters only in the two lists of exceptions. Conventions that
differ in leading `::` report a block at the same tokens in the same order exactly if both make the
same exceptions for it. If they do so for every block, or if both lists of exceptions are the same,
they report the file at the same tokens in the same order. -/
theorem tokens_eq_iff_sameExceptions (respelled : c.Respelled d) (path root : String)
    (s : TokenStream) :
    (∀ b ∈ s.definitions ++ s.nodes,
        (blockViolations c path root s b).map Violation.token =
            (blockViolations d path root s b).map Violation.token ↔
          SameExceptions c d s b) ∧
      ((∀ b ∈ s.definitions ++ s.nodes, SameExceptions c d s b) →
        (check c (.ofStream path s root)).map Violation.token =
          (check d (.ofStream path s root)).map Violation.token) ∧
      (c.profileIncludeClasses = d.profileIncludeClasses →
        c.nodeAllowedResources = d.nodeAllowedResources →
          (check c (.ofStream path s root)).map Violation.token =
            (check d (.ofStream path s root)).map Violation.token) := by
  have block : ∀ b, (blockViolations c path root s b).map Violation.token =
      (blockViolations d path root s b).map Violation.token ↔ SameExceptions c d s b := by
    intro b
    rw [tokens_blockViolations, tokens_blockViolations,
      (List.map_injective_iff.mpr Site.token?_injective).eq_iff,
      sites_blockFindings_eq_iff respelled]
  have file : (∀ b ∈ s.definitions ++ s.nodes, SameExceptions c d s b) →
      (check c (.ofStream path s root)).map Violation.token =
        (check d (.ofStream path s root)).map Violation.token := by
    intro same
    rw [tokens_check, tokens_check]
    exact List.flatMap_congr fun b member => (block b).mpr (same b member)
  refine ⟨fun b _ => block b, file, fun classes resources => file fun b _ => ?_⟩
  exact ⟨fun _ _ _ _ _ => by rw [classes], fun _ _ _ _ => by rw [resources]⟩

/-- A profile that includes an exempted class and declares the role resource and a deprecated
define, and a node that declares an exempted resource. -/
def balancer : TokenStream :=
  .ofList [.new .classKw "class" 1 1, .new .name "profile::lb" 1 7, .new .lbrace "\x7b" 1 19,
    .new .name "include" 2 3, .new .name "lvs::realserver" 2 11, .new .name "system::role" 3 3,
    .new .lbrace "\x7b" 3 16, .new .rbrace "\x7d" 3 18, .new .name "base::service_unit" 4 3,
    .new .lbrace "\x7b" 4 22, .new .rbrace "\x7d" 4 24, .new .rbrace "\x7d" 5 1,
    .new .nodeKw "node" 6 1, .new .regex "^lb" 6 6, .new .lbrace "\x7b" 6 12,
    .new .name "interface::add_ip6_mapped" 7 3, .new .lbrace "\x7b" 7 29,
    .new .rbrace "\x7d" 7 31, .new .rbrace "\x7d" 8 1]

/-- The role resource and the deprecated define are found whichever way they are written. -/
theorem tokens_eq_of_balancer :
    (check {} (.ofStream "lb.pp" balancer ".")).map Violation.token = [some 5, none] ∧
      (check {} (.ofStream "lb.pp" balancer ".")).map Violation.token =
        (check { roleResource := "::system::role", deprecatedDefines := ["::base::service_unit"] }
          (.ofStream "lb.pp" balancer ".")).map Violation.token := by
  refine ⟨by decide +kernel, (tokens_eq_iff_sameExceptions ?_ "lb.pp" "." balancer).2.2 rfl rfl⟩
  constructor
  case roleResource => exact Or.inr (Or.inl ⟨by decide, rfl⟩)
  case deprecatedDefines => exact .cons (Or.inr (Or.inl ⟨by decide, rfl⟩)) .nil
  case profileIncludeClasses => exact .cons (Or.inl rfl) .nil
  case nodeAllowedResources => exact .cons (Or.inl rfl) .nil
  all_goals rfl

/-- The usual conventions with every exception written absolutely. -/
def absoluteExceptions : Conventions :=
  { profileIncludeClasses := ["::lvs::realserver"]
    nodeAllowedResources := ["::interface::add_ip6_mapped"] }

/-- An exception that is written with a leading `::` exempts nothing. -/
theorem absolute_exceptions_exempt_nothing :
    Conventions.Respelled {} absoluteExceptions ∧
      (check {} (.ofStream "lb.pp" balancer ".")).map Violation.token = [some 5, none] ∧
      (check absoluteExceptions (.ofStream "lb.pp" balancer ".")).map Violation.token =
        [some 4, some 5, none, some 15] := by
  refine ⟨?_, by decide +kernel, by decide +kernel⟩
  constructor
  case roleResource => exact Or.inl rfl
  case deprecatedDefines => exact .cons (Or.inl rfl) .nil
  case profileIncludeClasses => exact .cons (Or.inr (Or.inl ⟨by decide, rfl⟩)) .nil
  case nodeAllowedResources => exact .cons (Or.inr (Or.inl ⟨by decide, rfl⟩)) .nil
  all_goals rfl

end Layering

end ManifestLint
