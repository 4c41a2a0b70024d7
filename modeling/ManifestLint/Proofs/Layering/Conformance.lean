import Mathlib.Data.List.Basic
import ManifestLint.Proofs.Block.Extent
import ManifestLint.Proofs.Layering.Pattern

/-!
# Conforming classes and defined types

The layering rules, said without a search: what each layer asks of the tokens of a class or a
defined type. The rule reports nothing about a block exactly if the block conforms. Every family of
findings is empty exactly if one of the conditions holds, and each layer puts its families together.
-/
namespace ManifestLint

/-! ### What the tokens of a block are -/

namespace Block

variable (b : Block) (s : TokenStream)

/-- A position from the keyword of a block to its closing brace. -/
def Spans (i : Nat) : Prop := b.start ≤ i ∧ i ≤ b.stop

/-- A token that names a class which a statement of the block includes. -/
def Includes (i : Nat) : Prop := ∃ word, b.Spans word ∧ s.includedClass? word = some i

/-- A token that names a class which the block declares like a resource. -/
def DeclaresClass (i : Nat) : Prop := ∃ keyword, b.Spans keyword ∧ s.declaredClass? keyword = some i

/-- A token of the block that is the type of a declared resource. -/
def DeclaresResource (i : Nat) : Prop := b.Spans i ∧ s.isResourceType i = true

end Block

namespace TokenStream

variable (s : TokenStream)

/-- A call that fetches data, by a deprecated function or not. -/
def Fetches (i : Nat) : Prop := s.isLookup i = true ∨ s.isLegacyLookup i = true

/-- The name that a token spells, without the leading `::`. -/
def nameAt (i : Nat) : String := Name.normalize (s.text i)

/-- The module that owns the name a token spells. -/
def ownerAt (i : Nat) : String := Name.moduleOf (s.nameAt i)

end TokenStream

namespace Layering

/-! ### What the layers ask -/

/-- What is asked of every class and defined type. -/
structure Current (c : Conventions) (s : TokenStream) (b : Block) : Prop where
  functions : ∀ i, b.Spans i → s.isLegacyValidate i = false
  defines : ∀ i, b.DeclaresResource s i → ∀ define ∈ c.deprecatedDefines,
    s.nameAt i ≠ Name.normalize define

/-- What is asked of a profile. -/
structure ConformingProfile (c : Conventions) (s : TokenStream) (b : Block) : Prop where
  defaults : ∀ p ∈ b.parameters s, ∃ i ∈ p.value, s.isLookup i = true
  lookups : ∀ i, b.Spans i → s.Fetches i → ∃ p ∈ b.parameters s, i ∈ p.value
  includes : ∀ i, b.Includes s i → s.ownerAt i = c.profileModule ∨
    s.ownerAt i ∈ c.profileIncludeModules ∨ s.nameAt i ∈ c.profileIncludeClasses
  resources : ∀ i, b.DeclaresResource s i → s.nameAt i ≠ Name.normalize c.roleResource

/-- What is asked of a role. -/
structure ConformingRole (c : Conventions) (s : TokenStream) (b : Block) : Prop where
  lookups : ∀ i, b.Spans i → ¬ s.Fetches i
  includes : ∀ i, b.Includes s i → s.ownerAt i = c.roleModule ∨ s.ownerAt i = c.profileModule
  once : ∃! i, b.DeclaresResource s i ∧ s.nameAt i = Name.normalize c.roleResource
  only : ∀ i, b.DeclaresResource s i → s.nameAt i = Name.normalize c.roleResource

/-- What is asked of a class that is neither. -/
structure ConformingClass (c : Conventions) (s : TokenStream) (b : Block) : Prop where
  lookups : ∀ i, b.Spans i → ¬ s.Fetches i
  includes : ∀ i, b.Includes s i → s.ownerAt i = b.module s
  classes : ∀ i, b.DeclaresClass s i → s.ownerAt i = b.module s
  resources : ∀ i, b.DeclaresResource s i → s.nameAt i ≠ Name.normalize c.roleResource

/-- What is asked of a defined type. One in the module that holds profiles wraps any class, and a
name of one segment is never held against a defined type. -/
structure ConformingType (c : Conventions) (s : TokenStream) (b : Block) : Prop where
  lookups : ∀ i, b.Spans i → ¬ s.Fetches i
  classes : b.module s ≠ c.profileModule → ∀ i, b.DeclaresClass s i →
    [':', ':'] <:+: (s.nameAt i).toList → s.ownerAt i = b.module s

/-- What is asked of a class or a defined type, by its layer. -/
def Conforms (c : Conventions) (s : TokenStream) (b : Block) : Prop :=
  Current c s b ∧
    match b.layer s c with
    | .profile => ConformingProfile c s b
    | .role => ConformingRole c s b
    | .plainClass => ConformingClass c s b
    | .definedType => ConformingType c s b
    | .node => True

/-! ### Names -/

theorem isQualified_iff (name : String) :
    Name.isQualified name = true ↔ [':', ':'] <:+: name.toList := by
  have segment (cs : List Char) : Name.firstSegment cs ≠ cs ↔ [':', ':'] <:+: cs := by
    fun_induction Name.firstSegment cs with
    | case1 => simp
    | case2 rest => exact ⟨fun _ => ⟨[], rest, rfl⟩, fun _ => by simp⟩
    | case3 c rest other ih =>
      -- A separator that does not stand at the front stands in the rest.
      have later : ¬ [':', ':'] <+: c :: rest := by
        rintro ⟨tail, equal⟩
        obtain ⟨rfl, rfl⟩ := List.cons.inj equal
        exact other tail rfl rfl
      rw [List.infix_cons_iff, or_iff_right later, ← ih, ne_eq, List.cons.injEq, not_and]
      exact ⟨fun differs => differs rfl, fun differs _ => differs⟩
  rw [Name.isQualified, bne_iff_ne]
  exact segment name.toList

/-- A name that begins with no more than one separator loses it once and for all. -/
theorem normalize_normalize {name : String} (simple : ¬ "::::".toList <+: name.toList) :
    Name.normalize (Name.normalize name) = Name.normalize name := by
  have dropped (cs : List Char) (simple : ¬ "::::".toList <+: cs) :
      Name.dropTopScope (Name.dropTopScope cs) = Name.dropTopScope cs := by
    fun_cases Name.dropTopScope cs with
    | case1 rest =>
      -- What is left begins with no separator, so nothing is dropped from it.
      fun_cases Name.dropTopScope rest with
      | case1 tail => exact absurd ⟨tail, rfl⟩ simple
      | case2 => rfl
    | case2 _ other =>
      unfold Name.dropTopScope
      split
      next rest => exact absurd rfl (other rest)
      · rfl
  rw [Name.normalize, Name.toList_normalize, dropped name.toList simple, Name.normalize]

/-! ### What is found in a block -/

section Members

variable {s : TokenStream} {b : Block} (inside : b.stop < s.size) {i : Nat}
include inside

theorem mem_positions_iff : i ∈ b.positions s ↔ b.Spans i := by
  rw [Block.mem_positions, Block.Spans]
  omega

theorem mem_includedClasses_iff : i ∈ b.includedClasses s ↔ b.Includes s i := by
  simp only [Block.includedClasses, List.mem_filterMap, mem_positions_iff inside, Block.Includes]

theorem mem_declaredClasses_iff : i ∈ b.declaredClasses s ↔ b.DeclaresClass s i := by
  simp only [Block.declaredClasses, List.mem_filterMap, mem_positions_iff inside,
    Block.DeclaresClass]

theorem mem_declaredResources_iff : i ∈ b.declaredResources s ↔ b.DeclaresResource s i := by
  simp only [Block.declaredResources, List.mem_filter, mem_positions_iff inside,
    Block.DeclaresResource]

theorem mem_resourcesOf_iff (type : String) :
    i ∈ b.resourcesOf s type ↔
      b.DeclaresResource s i ∧ s.nameAt i = Name.normalize type := by
  simp only [Block.resourcesOf, List.mem_filter, mem_declaredResources_iff inside, beq_iff_eq,
    TokenStream.nameAt]

end Members

/-! ### When a family of findings is empty -/

theorem filterMap_unless_eq_nil_iff {α β : Type} {list : List α} {allowed : α → Bool}
    {finding : α → β} :
    list.filterMap (fun a => if allowed a then none else some (finding a)) = [] ↔
      ∀ a ∈ list, allowed a = true := by
  rw [List.filterMap_eq_nil_iff]
  refine forall_congr' fun a => imp_congr_right fun _ => ?_
  cases allowed a <;> simp

theorem positions_nodup (b : Block) (s : TokenStream) : (b.positions s).Nodup :=
  List.nodup_range'

theorem length_eq_one_iff_existsUnique {α : Type} {list : List α} (distinct : list.Nodup) :
    list.length = 1 ↔ ∃! a, a ∈ list := by
  constructor
  · intro one
    obtain ⟨a, rfl⟩ := List.length_eq_one_iff.mp one
    exact ⟨a, List.mem_singleton_self a, fun b member => List.mem_singleton.mp member⟩
  · rintro ⟨a, member, unique⟩
    match list, distinct with
    | [], _ => cases member
    | [_], _ => rfl
    | b :: d :: rest, distinct =>
      -- Both of the first two members are the one, so they are not distinct.
      have first := unique b List.mem_cons_self
      have second := unique d (List.mem_cons_of_mem b List.mem_cons_self)
      have differ := (List.nodup_cons.mp distinct).1
      rw [first, second] at differ
      exact absurd List.mem_cons_self differ

section Families

variable {s : TokenStream} {b : Block} (inside : b.stop < s.size) (c : Conventions)
include inside

theorem withoutLookups_eq_nil_iff :
    withoutLookups s b = [] ↔ ∀ i, b.Spans i → ¬ s.Fetches i := by
  simp only [withoutLookups, List.filterMap_eq_nil_iff, mem_positions_iff inside]
  refine forall_congr' fun i => imp_congr_right fun _ => ?_
  rw [TokenStream.Fetches]
  split
  next lookup => simp [lookup]
  next noLookup =>
    split
    next legacy => simp [legacy]
    next noLegacy => simp [noLookup, noLegacy]

omit inside in
theorem parameterDefaults_eq_nil_iff :
    parameterDefaults s b = [] ↔ ∀ p ∈ b.parameters s, ∃ i ∈ p.value, s.isLookup i = true := by
  simp only [parameterDefaults, List.filterMap_eq_nil_iff]
  refine forall_congr' fun p => imp_congr_right fun _ => ?_
  rw [← List.any_eq_true]
  split
  next fetches => simp [fetches]
  next none =>
    -- Without a call there is a finding, whichever function is blamed.
    refine ⟨fun empty => ?_, fun fetches => absurd fetches none⟩
    split at empty <;> cases empty

theorem lookupsOutsideDefaults_eq_nil_iff :
    lookupsOutsideDefaults s b = [] ↔
      ∀ i, b.Spans i → s.Fetches i → ∃ p ∈ b.parameters s, i ∈ p.value := by
  simp only [lookupsOutsideDefaults, List.filterMap_eq_nil_iff, mem_positions_iff inside]
  refine forall_congr' fun i => imp_congr_right fun _ => ?_
  have default : (b.parameters s).inDefault i = true ↔ ∃ p ∈ b.parameters s, i ∈ p.value := by
    simp [Parameters.inDefault]
  rw [← default, TokenStream.Fetches, ← Bool.or_eq_true_iff]
  cases s.isLookup i || s.isLegacyLookup i <;> cases (b.parameters s).inDefault i <;> simp

theorem withoutLegacyValidates_eq_nil_iff :
    withoutLegacyValidates s b = [] ↔ ∀ i, b.Spans i → s.isLegacyValidate i = false := by
  simp only [withoutLegacyValidates, Block.legacyValidates, List.map_eq_nil_iff,
    List.filter_eq_nil_iff, mem_positions_iff inside, Bool.not_eq_true]

theorem deprecatedDefines_eq_nil_iff :
    deprecatedDefines c s b = [] ↔ ∀ i, b.DeclaresResource s i →
      ∀ define ∈ c.deprecatedDefines, s.nameAt i ≠ Name.normalize define := by
  refine filterMap_unless_eq_nil_iff.trans ?_
  simp only [List.isEmpty_iff, List.eq_nil_iff_forall_not_mem, mem_resourcesOf_iff inside, not_and]
  exact ⟨fun none i declared define listed => none define listed i declared,
    fun none define listed i declared => none i declared define listed⟩

theorem profileIncludes_eq_nil_iff :
    profileIncludes c s b = [] ↔ ∀ i, b.Includes s i → s.ownerAt i = c.profileModule ∨
      s.ownerAt i ∈ c.profileIncludeModules ∨ s.nameAt i ∈ c.profileIncludeClasses := by
  refine filterMap_unless_eq_nil_iff.trans ?_
  simp only [mem_includedClasses_iff inside, profileMayInclude, Bool.or_eq_true, beq_iff_eq,
    List.contains_iff_mem, or_assoc]
  rfl

theorem roleIncludes_eq_nil_iff :
    roleIncludes c s b = [] ↔
      ∀ i, b.Includes s i → s.ownerAt i = c.roleModule ∨ s.ownerAt i = c.profileModule := by
  refine filterMap_unless_eq_nil_iff.trans ?_
  simp only [mem_includedClasses_iff inside, roleMayInclude, Bool.or_eq_true, beq_iff_eq]
  rfl

theorem foreignIncludes_eq_nil_iff :
    foreignIncludes s b = [] ↔ ∀ i, b.Includes s i → s.ownerAt i = b.module s := by
  refine filterMap_unless_eq_nil_iff.trans ?_
  simp only [mem_includedClasses_iff inside, beq_iff_eq]
  rfl

theorem foreignDeclarations_eq_nil_iff :
    foreignDeclarations s b = [] ↔ ∀ i, b.DeclaresClass s i →
      (b.kind.isDefinedType = true → [':', ':'] <:+: (s.nameAt i).toList) →
        s.ownerAt i = b.module s := by
  simp only [foreignDeclarations, List.filterMap_eq_nil_iff, mem_declaredClasses_iff inside]
  refine forall_congr' fun i => imp_congr_right fun _ => ?_
  rw [← isQualified_iff, TokenStream.ownerAt, TokenStream.nameAt]
  split
  next passed =>
    obtain ⟨defined, plain⟩ := Bool.and_eq_true_iff.mp passed
    simp_all
  next asked =>
    split <;> simp_all

theorem roleResourceElsewhere_eq_nil_iff :
    roleResourceElsewhere c s b = [] ↔
      ∀ i, b.DeclaresResource s i → s.nameAt i ≠ Name.normalize c.roleResource := by
  rw [roleResourceElsewhere, List.map_eq_nil_iff, List.eq_nil_iff_forall_not_mem]
  simp only [mem_resourcesOf_iff inside, not_and, ne_eq]

theorem roleOtherResources_eq_nil_iff :
    roleOtherResources c s b = [] ↔
      ∀ i, b.DeclaresResource s i → s.nameAt i = Name.normalize c.roleResource := by
  have others : (((b.declaredResources s).map fun i => Name.normalize (s.text i)).filter
      (· != Name.normalize c.roleResource)).isEmpty = true ↔
        ∀ i, b.DeclaresResource s i → s.nameAt i = Name.normalize c.roleResource := by
    simp only [List.isEmpty_iff, List.filter_eq_nil_iff, List.forall_mem_map,
      mem_declaredResources_iff inside, bne_iff_ne, ne_eq, not_not]
    rfl
  rw [← others, roleOtherResources]
  dsimp only
  split
  next none => simp [none]
  next some => simp [some]

/-- The role resource is looked for by a name that is normalised once more. -/
theorem roleResourceOnce_eq_nil_iff (simple : ¬ "::::".toList <+: c.roleResource.toList) :
    roleResourceOnce c s b = [] ↔
      ∃! i, b.DeclaresResource s i ∧ s.nameAt i = Name.normalize c.roleResource := by
  have distinct : (b.resourcesOf s (Name.normalize c.roleResource)).Nodup :=
    ((positions_nodup b s).filter _).filter _
  -- No position is listed twice, so one entry is one resource.
  have once := length_eq_one_iff_existsUnique distinct
  simp only [mem_resourcesOf_iff inside, normalize_normalize simple] at once
  rw [← once, roleResourceOnce]
  split
  next one => simp [one]
  next other => simp [other]

end Families

/-! ### Layers -/

section Layers

variable {s : TokenStream} {b : Block} (inside : b.stop < s.size) (c : Conventions)
include inside

theorem deprecations_eq_nil_iff : deprecations c s b = [] ↔ Current c s b := by
  rw [deprecations, List.append_eq_nil_iff, withoutLegacyValidates_eq_nil_iff inside,
    deprecatedDefines_eq_nil_iff inside]
  constructor
  · rintro ⟨functions, defines⟩
    exact ⟨functions, defines⟩
  · rintro ⟨functions, defines⟩
    exact ⟨functions, defines⟩

theorem profile_eq_nil_iff : layerFindings c s b .profile = [] ↔ ConformingProfile c s b := by
  simp only [layerFindings, List.append_eq_nil_iff, parameterDefaults_eq_nil_iff,
    lookupsOutsideDefaults_eq_nil_iff inside, profileIncludes_eq_nil_iff inside,
    roleResourceElsewhere_eq_nil_iff inside]
  constructor
  · rintro ⟨⟨⟨defaults, lookups⟩, includes⟩, resources⟩
    exact ⟨defaults, lookups, includes, resources⟩
  · rintro ⟨defaults, lookups, includes, resources⟩
    exact ⟨⟨⟨defaults, lookups⟩, includes⟩, resources⟩

theorem role_eq_nil_iff (simple : ¬ "::::".toList <+: c.roleResource.toList) :
    layerFindings c s b .role = [] ↔ ConformingRole c s b := by
  simp only [layerFindings, List.append_eq_nil_iff, withoutLookups_eq_nil_iff inside,
    roleIncludes_eq_nil_iff inside, roleResourceOnce_eq_nil_iff inside c simple,
    roleOtherResources_eq_nil_iff inside]
  constructor
  · rintro ⟨⟨⟨lookups, includes⟩, once⟩, only⟩
    exact ⟨lookups, includes, once, only⟩
  · rintro ⟨lookups, includes, once, only⟩
    exact ⟨⟨⟨lookups, includes⟩, once⟩, only⟩

theorem plainClass_eq_nil_iff (other : b.kind.isDefinedType = false) :
    layerFindings c s b .plainClass = [] ↔ ConformingClass c s b := by
  simp only [layerFindings, List.append_eq_nil_iff, withoutLookups_eq_nil_iff inside,
    foreignIncludes_eq_nil_iff inside, foreignDeclarations_eq_nil_iff inside,
    roleResourceElsewhere_eq_nil_iff inside, other, Bool.false_eq_true, false_implies,
    true_implies]
  constructor
  · rintro ⟨⟨⟨lookups, includes⟩, classes⟩, resources⟩
    exact ⟨lookups, includes, classes, resources⟩
  · rintro ⟨lookups, includes, classes, resources⟩
    exact ⟨⟨⟨lookups, includes⟩, classes⟩, resources⟩

theorem definedType_eq_nil_iff (defined : b.kind.isDefinedType = true) :
    layerFindings c s b .definedType = [] ↔ ConformingType c s b := by
  have classes : (if b.module s == c.profileModule then [] else foreignDeclarations s b) = [] ↔
      (b.module s ≠ c.profileModule → ∀ i, b.DeclaresClass s i →
        [':', ':'] <:+: (s.nameAt i).toList → s.ownerAt i = b.module s) := by
    split
    next profile => simp_all
    next other =>
      simp only [foreignDeclarations_eq_nil_iff inside, defined, true_implies]
      exact ⟨fun holds _ => holds, fun holds => holds (by simpa using other)⟩
  rw [layerFindings, List.append_eq_nil_iff, withoutLookups_eq_nil_iff inside, classes]
  constructor
  · rintro ⟨lookups, classes⟩
    exact ⟨lookups, classes⟩
  · rintro ⟨lookups, classes⟩
    exact ⟨lookups, classes⟩

end Layers

/-- The layering rules are checked soundly and completely: nothing is reported about a class or a
defined type exactly if it conforms to the rules of its layer. -/
theorem violations_eq_nil_iff_conforms (c : Conventions)
    (simple : ¬ "::::".toList <+: c.roleResource.toList) (path root : String) {s : TokenStream}
    {b : Block} (member : b ∈ s.definitions) :
    (blockFindings c s b).map (Finding.violation (.ofStream path s root) info) = [] ↔
      Conforms c s b := by
  have framed := TokenStream.framed_of_mem (List.mem_append_left _ member)
  have inside : b.stop < s.size := TokenStream.lt_size_of_isKind framed.closes
  have noNode := TokenStream.isNode_of_mem_definitions member
  obtain ⟨defined, node⟩ := isDefinedType_and_isNode_eq c s b
  rw [List.map_eq_nil_iff, blockFindings, List.append_eq_nil_iff, noNode, if_neg Bool.false_ne_true,
    deprecations_eq_nil_iff inside, and_comm, Conforms]
  refine and_congr_right fun _ => ?_
  -- What is left is the layer's own part; no definition is in the layer of nodes.
  cases layer : b.layer s c with
  | profile => exact profile_eq_nil_iff inside c
  | role => exact role_eq_nil_iff inside c simple
  | plainClass => exact plainClass_eq_nil_iff inside c (by rw [defined, layer]; rfl)
  | definedType => exact definedType_eq_nil_iff inside c (by rw [defined, layer]; rfl)
  | node =>
    rw [layer, noNode] at node
    cases node

/-- A role that assigns a profile, and a class that includes another module. -/
def roleAndClass : TokenStream :=
  .ofList [.new .classKw "class" 1 1, .new .name "role::db" 1 7, .new .lbrace "\x7b" 1 16,
    .new .name "system::role" 2 3, .new .lbrace "\x7b" 2 16, .new .quoted "db" 2 18,
    .new .colon ":" 2 22, .new .rbrace "\x7d" 2 24, .new .name "include" 3 3,
    .new .name "::profile::db" 3 11, .new .rbrace "\x7d" 4 1, .new .classKw "class" 5 1,
    .new .name "web" 5 7, .new .lbrace "\x7b" 5 11, .new .name "include" 6 3, .new .name "db" 6 11,
    .new .rbrace "\x7d" 7 1]

/-- The role conforms and the class does not. -/
theorem violations_eq_nil_iff_conforms_of_roleAndClass :
    roleAndClass.definitions = [⟨0, 10, .classDef 1 none⟩, ⟨11, 16, .classDef 12 none⟩] ∧
      Conforms {} roleAndClass ⟨0, 10, .classDef 1 none⟩ ∧
      ¬ Conforms {} roleAndClass ⟨11, 16, .classDef 12 none⟩ := by
  have blocks : roleAndClass.definitions =
      [⟨0, 10, .classDef 1 none⟩, ⟨11, 16, .classDef 12 none⟩] := by decide +kernel
  have simple : ¬ "::::".toList <+: ({} : Conventions).roleResource.toList := by decide
  refine ⟨blocks, ?_, ?_⟩
  · rw [← violations_eq_nil_iff_conforms {} simple "db.pp" "." (by rw [blocks]; simp)]
    decide +kernel
  · rw [← violations_eq_nil_iff_conforms {} simple "db.pp" "." (by rw [blocks]; simp)]
    decide +kernel

end Layering

end ManifestLint
