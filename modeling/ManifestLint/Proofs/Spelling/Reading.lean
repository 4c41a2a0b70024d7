import ManifestLint.Proofs.Layering.Conformance

/-!
# Streams that read alike

Two streams of the same kinds may spell their texts differently. Most texts are names, and names are
compared and quoted without their leading `::`. The others are looked at as they are: the words that
make a statement, variables, the keys of data that is fetched, and the titles of nodes. Streams that
agree on all of this get the same findings.
-/
namespace ManifestLint

/-- A text that makes a statement of the token it belongs to. -/
def Reserved (text : String) : Prop :=
  text ∈ lookupFunction :: legacyLookupFunctions ++ includeWords ∨ validatePrefix <+: text.toList

instance (text : String) : Decidable (Reserved text) := inferInstanceAs (Decidable (_ ∨ _))

/-- Streams that spell names alike but for a leading `::`, and everything else the same. -/
structure TokenStream.ReadAlike (s t : TokenStream) : Prop where
  kinds : s.kinds = t.kinds
  places : ∀ i, (s.token? i).map (fun token => (token.line, token.column)) =
    (t.token? i).map fun token => (token.line, token.column)
  names : ∀ i, s.nameAt i = t.nameAt i
  words : ∀ i, s.text i = t.text i ∨ ¬ Reserved (s.text i) ∧ ¬ Reserved (t.text i)
  parameters : ∀ i, s.isKind i .variable = true → s.text i = t.text i
  keys : ∀ call, s.Fetches call → ∀ argument, (s.next? call).bind s.next? = some argument →
    s.isKind argument .string = true ∨ s.isKind argument .quoted = true →
      s.text argument = t.text argument
  titles : ∀ b ∈ s.nodes, ∀ i ∈ b.kind.titles, s.text i = t.text i

namespace TokenStream.ReadAlike

variable {s t : TokenStream} (alike : s.ReadAlike t) {i : Nat}
include alike

/-! ### Statements -/

theorem text_eq_of_reserved (reserved : Reserved (s.text i)) : s.text i = t.text i := by
  rcases alike.words i with same | ⟨free, _⟩
  · exact same
  · exact absurd reserved free

/-- A test that only reserved texts pass gives the same answer in both streams. -/
theorem test_eq {test : String → Bool} (reserved : ∀ text, test text = true → Reserved text)
    (i : Nat) : test (s.text i) = test (t.text i) := by
  rcases alike.words i with same | ⟨free, free'⟩
  · rw [same]
  · have fails : test (s.text i) = false := Bool.eq_false_iff.mpr fun passed =>
      free (reserved _ passed)
    have fails' : test (t.text i) = false := Bool.eq_false_iff.mpr fun passed =>
      free' (reserved _ passed)
    rw [fails, fails']

theorem isLookup_eq : s.isLookup = t.isLookup := by
  have reserved : ∀ text, (text == lookupFunction) = true → Reserved text := by simp [Reserved]
  funext i
  rw [isLookup, isLookup, isFunctionCall_congr alike.kinds, alike.test_eq reserved]

theorem isLegacyLookup_eq : s.isLegacyLookup = t.isLegacyLookup := by
  have reserved : ∀ text, legacyLookupFunctions.contains text = true → Reserved text := by
    simp +contextual [Reserved]
  funext i
  rw [isLegacyLookup, isLegacyLookup, isFunctionCall_congr alike.kinds, alike.test_eq reserved]

theorem isLegacyValidate_eq : s.isLegacyValidate = t.isLegacyValidate := by
  have reserved : ∀ text : String, validatePrefix.isPrefixOf text.toList = true →
      Reserved text := by
    simp +contextual [Reserved]
  funext i
  rw [isLegacyValidate, isLegacyValidate, isFunctionCall_congr alike.kinds,
    alike.test_eq reserved]

theorem includedClass?_eq : s.includedClass? = t.includedClass? := by
  have reserved : ∀ text, includeWords.contains text = true → Reserved text := by
    simp +contextual [Reserved]
  funext i
  rw [includedClass?, includedClass?, isInclude, isInclude, isKind_congr alike.kinds,
    next?_congr alike.kinds, alike.test_eq reserved]

theorem text_eq_of_fetches (fetches : s.Fetches i) : s.text i = t.text i := by
  apply alike.text_eq_of_reserved
  rcases fetches with lookup | legacy
  · simp_all [isLookup, Reserved]
  · simp_all [isLegacyLookup, Reserved]

theorem text_eq_of_isLegacyValidate (call : s.isLegacyValidate i = true) :
    s.text i = t.text i := by
  apply alike.text_eq_of_reserved
  simp_all [isLegacyValidate, Reserved]

theorem keySuffix_eq (fetches : s.Fetches i) :
    Layering.keySuffix s i = Layering.keySuffix t i := by
  rw [Layering.keySuffix, Layering.keySuffix, ← next?_congr alike.kinds, ← isKind_congr alike.kinds]
  cases found : (s.next? i).bind s.next? with
  | none => rfl
  | some argument =>
    dsimp only
    split
    next literal =>
      rw [alike.keys i fetches argument found (Bool.or_eq_true_iff.mp literal)]
    · rfl

/-! ### Parameters -/

theorem token?_cases (i : Nat) :
    s.token? i = none ∧ t.token? i = none ∨
      ∃ one other, s.token? i = some one ∧ t.token? i = some other ∧ one.kind = other.kind ∧
        s.text i = one.text ∧ t.text i = other.text := by
  have kinds : s.kind? i = t.kind? i := by rw [kind?_eq, kind?_eq, alike.kinds]
  rw [kind?, kind?] at kinds
  cases here : s.token? i <;> cases there : t.token? i <;> simp_all [text]

omit alike in
theorem step_congr (scan : ParameterScan) (i : Nat) {one other : Token}
    (kind : one.kind = other.kind) (texts : one.kind = .variable → one.text = other.text) :
    scan.step i one = scan.step i other := by
  rw [ParameterScan.step, ParameterScan.step, kind]
  split
  · rfl
  split
  · rw [ParameterScan.stepValue, ParameterScan.stepValue, kind]
  · rw [ParameterScan.stepHead, ParameterScan.stepHead, kind]
    split
    next declares => rw [texts (kind.trans declares)]
    all_goals rfl

theorem run_eq (scan : ParameterScan) (positions : List Nat) :
    scan.run s positions = scan.run t positions := by
  induction positions generalizing scan with
  | nil => rfl
  | cons i rest ih =>
    rw [ParameterScan.run, ParameterScan.run]
    rcases alike.token?_cases i with ⟨none, none'⟩ | ⟨one, other, here, there, kind, text, text'⟩
    · rw [none, none']
    · rw [here, there]
      dsimp only
      -- Only the text of a variable is read.
      have texts : one.kind = .variable → one.text = other.text := by
        intro declares
        rw [← text, ← text']
        apply alike.parameters
        simp [isKind, kind?, here, declares]
      rw [step_congr scan i kind texts, ih]

/-! ### Blocks -/

section Blocks

variable (b : Block)

theorem positions_eq : b.positions s = b.positions t := by
  rw [Block.positions, Block.positions, size_congr alike.kinds]

theorem parameters_eq : b.parameters s = b.parameters t := by
  simp only [Block.parameters, Span.positions, TokenStream.parameters, alike.run_eq,
    size_congr alike.kinds]

theorem includedClasses_eq : b.includedClasses s = b.includedClasses t := by
  rw [Block.includedClasses, Block.includedClasses, alike.positions_eq, alike.includedClass?_eq]

theorem declaredClasses_eq : b.declaredClasses s = b.declaredClasses t := by
  rw [Block.declaredClasses, Block.declaredClasses, alike.positions_eq,
    declaredClass?_congr alike.kinds]

theorem declaredResources_eq : b.declaredResources s = b.declaredResources t := by
  rw [Block.declaredResources, Block.declaredResources, alike.positions_eq,
    isResourceType_congr alike.kinds]

/-- Names are compared without their leading `::`. -/
theorem normalize_eq (i : Nat) : Name.normalize (s.text i) = Name.normalize (t.text i) :=
  alike.names i

theorem resourcesOf_eq (type : String) : b.resourcesOf s type = b.resourcesOf t type := by
  simp only [Block.resourcesOf, alike.declaredResources_eq, alike.normalize_eq]

theorem titleTokens_eq : b.titleTokens s = b.titleTokens t := by
  rw [Block.titleTokens, Block.titleTokens, size_congr alike.kinds]

variable {b} (titled : ∀ i ∈ b.kind.titles, s.text i = t.text i)
include titled

theorem title_eq : b.title s = b.title t := by
  rw [Block.title, Block.title, alike.titleTokens_eq]
  congr 1
  apply List.map_congr_left
  intro i member
  exact titled i (List.mem_filter.mp member).1

theorem name_eq : b.name s = b.name t := by
  rw [Block.name, Block.name, alike.title_eq titled]
  cases b.kind.name? with
  | none => rfl
  | some i =>
    rcases alike.token?_cases i with ⟨none, none'⟩ | ⟨one, other, here, there, _, text, text'⟩
    · rw [Option.bind_some, Option.bind_some, none, none']
    · rw [Option.bind_some, Option.bind_some, here, there]
      dsimp only
      rw [← text, ← text', alike.normalize_eq]

theorem module_eq : b.module s = b.module t := by
  rw [Block.module, Block.module, alike.name_eq titled]

theorem layer_eq (c : Conventions) : b.layer s c = b.layer t c := by
  rw [Block.layer, Block.layer, Block.isProfile, Block.isRole, alike.module_eq titled]
  rfl

end Blocks

end TokenStream.ReadAlike

/-! ### Findings -/

namespace Layering

open TokenStream

variable {s t : TokenStream} (alike : s.ReadAlike t) {b : Block} (c : Conventions)
include alike

section Titled

variable (titled : ∀ i ∈ b.kind.titles, s.text i = t.text i)
include titled

theorem withoutLookups_eq : withoutLookups s b = withoutLookups t b := by
  simp only [withoutLookups, alike.name_eq titled, ← alike.positions_eq, ← alike.isLookup_eq,
    ← alike.isLegacyLookup_eq]
  apply List.filterMap_congr
  intro i _
  split
  next lookup => rw [alike.keySuffix_eq (Or.inl lookup)]
  split
  next legacy => rw [alike.keySuffix_eq (Or.inr legacy), alike.text_eq_of_fetches (Or.inr legacy)]
  · rfl

theorem parameterDefaults_eq : parameterDefaults s b = parameterDefaults t b := by
  rw [parameterDefaults, parameterDefaults, alike.name_eq titled, ← alike.parameters_eq,
    ← alike.isLookup_eq, ← alike.isLegacyLookup_eq]
  apply List.filterMap_congr
  intro p _
  split
  · rfl
  · cases found : p.value.find? s.isLegacyLookup with
    | none => rfl
    | some call =>
      have legacy := List.find?_some found
      dsimp only
      rw [alike.text_eq_of_fetches (Or.inr legacy)]

theorem lookupsOutsideDefaults_eq : lookupsOutsideDefaults s b = lookupsOutsideDefaults t b := by
  simp only [lookupsOutsideDefaults, alike.name_eq titled, ← alike.parameters_eq,
    ← alike.positions_eq, ← alike.isLookup_eq, ← alike.isLegacyLookup_eq]
  apply List.filterMap_congr
  intro i _
  split
  next outside =>
    have fetches : s.Fetches i := Bool.or_eq_true_iff.mp (Bool.and_eq_true_iff.mp outside).1
    rw [alike.keySuffix_eq fetches, alike.text_eq_of_fetches fetches]
  · rfl

theorem withoutLegacyValidates_eq :
    withoutLegacyValidates s b = withoutLegacyValidates t b := by
  simp only [withoutLegacyValidates, Block.legacyValidates, alike.name_eq titled,
    ← alike.positions_eq, ← alike.isLegacyValidate_eq]
  apply List.map_congr_left
  intro i member
  rw [alike.text_eq_of_isLegacyValidate (List.mem_filter.mp member).2]

theorem deprecations_eq : deprecations c s b = deprecations c t b := by
  rw [deprecations, deprecations, withoutLegacyValidates_eq alike titled]
  simp only [deprecatedDefines, alike.name_eq titled, alike.resourcesOf_eq]

theorem nodeBody_eq : nodeBody c s b = nodeBody c t b := by
  rw [nodeBody, nodeBody, alike.title_eq titled, alike.positions_eq]
  apply List.filterMap_congr
  intro i _
  simp only [nodeStatement, ← alike.isLookup_eq, ← alike.isLegacyLookup_eq,
    ← alike.includedClass?_eq, ← declaredClass?_congr alike.kinds,
    ← isResourceType_congr alike.kinds, ← alike.normalize_eq]
  split
  · rfl
  split
  next legacy => rw [alike.text_eq_of_fetches (Or.inr legacy)]
  · rfl

theorem nodeTitles_eq : nodeTitles c s b = nodeTitles c t b := by
  rw [nodeTitles, nodeTitles, alike.titleTokens_eq]
  apply List.flatMap_congr
  intro i member
  rw [nodeTitle, nodeTitle, isKind_congr alike.kinds, titled i (List.mem_filter.mp member).1]

/-- In each layer the families that read names go by their normal form, the others by what is left
of the texts. -/
theorem layerFindings_eq (layer : Layer) :
    layerFindings c s b layer = layerFindings c t b layer := by
  have lookups := withoutLookups_eq alike titled
  have elsewhere : roleResourceElsewhere c s b = roleResourceElsewhere c t b := by
    simp only [roleResourceElsewhere, alike.name_eq titled, alike.resourcesOf_eq]
  have declarations : foreignDeclarations s b = foreignDeclarations t b := by
    simp only [foreignDeclarations, alike.name_eq titled, alike.module_eq titled,
      alike.declaredClasses_eq, alike.normalize_eq]
  cases layer with
  | profile =>
    have includes : profileIncludes c s b = profileIncludes c t b := by
      simp only [profileIncludes, alike.name_eq titled, alike.includedClasses_eq,
        alike.normalize_eq]
    simp only [layerFindings, parameterDefaults_eq alike titled,
      lookupsOutsideDefaults_eq alike titled, includes, elsewhere]
  | role =>
    have includes : roleIncludes c s b = roleIncludes c t b := by
      simp only [roleIncludes, alike.name_eq titled, alike.includedClasses_eq, alike.normalize_eq]
    have once : roleResourceOnce c s b = roleResourceOnce c t b := by
      simp only [roleResourceOnce, alike.name_eq titled, alike.resourcesOf_eq]
    have others : roleOtherResources c s b = roleOtherResources c t b := by
      simp only [roleOtherResources, alike.name_eq titled, alike.declaredResources_eq,
        alike.normalize_eq]
    simp only [layerFindings, lookups, includes, once, others]
  | plainClass =>
    have includes : foreignIncludes s b = foreignIncludes t b := by
      simp only [foreignIncludes, alike.name_eq titled, alike.module_eq titled,
        alike.includedClasses_eq, alike.normalize_eq]
    simp only [layerFindings, lookups, includes, declarations, elsewhere]
  | definedType =>
    simp only [layerFindings, lookups, declarations, alike.module_eq titled]
  | node =>
    simp only [layerFindings, nodeBody_eq alike c titled, nodeTitles_eq alike c titled]

theorem blockFindings_eq : blockFindings c s b = blockFindings c t b := by
  rw [blockFindings, blockFindings, alike.layer_eq titled, layerFindings_eq alike c titled,
    deprecations_eq alike c titled]

end Titled

theorem patterns_eq_of_readAlike : s.patterns = t.patterns := by
  have titles : s.nodeTitles = t.nodeTitles := by
    rw [TokenStream.nodeTitles, TokenStream.nodeTitles, nodes_congr alike.kinds]
    exact List.flatMap_congr fun b _ => alike.titleTokens_eq b
  rw [patterns, patterns, ← titles, ← isKind_congr alike.kinds]
  apply List.map_congr_left
  intro i regex
  obtain ⟨b, node, title⟩ := List.mem_flatMap.mp (List.mem_filter.mp regex).1
  exact alike.titles b node i (List.mem_filter.mp title).1

/-- Streams that read alike get the same violations. -/
theorem check_eq_of_readAlike (path root : String) :
    check c (.ofStream path s root) = check c (.ofStream path t root) := by
  have places (i : Nat) : (FileContext.ofStream path s root).locationOf i =
      (FileContext.ofStream path t root).locationOf i := by
    have place := alike.places i
    simp only [FileContext.locationOf, FileContext.ofStream]
    cases here : s.token? i <;> cases there : t.token? i <;> simp_all
  have violations : Finding.violation (.ofStream path s root) info =
      Finding.violation (.ofStream path t root) info := by
    funext f
    simp only [Finding.violation, FileContext.violationAt, places]
    rfl
  have found : findings c (.ofStream path s root) = findings c (.ofStream path t root) := by
    simp only [findings, FileContext.ofStream, FileContext.nodes, ← definitions_congr alike.kinds,
      ← nodes_congr alike.kinds]
    apply List.flatMap_congr
    intro b member
    apply blockFindings_eq alike c
    rcases List.mem_append.mp member with defined | node
    · -- A definition has no titles.
      intro i title
      have noNode := isNode_of_mem_definitions defined
      cases kind : b.kind <;> simp_all [BlockKind.titles, BlockKind.isNode]
    · exact alike.titles b node
  rw [check, check, violations, found]

end Layering

end ManifestLint
