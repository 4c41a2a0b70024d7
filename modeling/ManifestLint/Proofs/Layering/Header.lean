import ManifestLint.Proofs.Layering.Fetching

/-!
# Headers of definitions that look like calls

A call is told by a name and an opening parenthesis behind it, and the header of a definition with
parameters has both. So a class or a defined type that is named like one of the functions that are
looked for is reported at its own name, and it is so exactly if it has a parameter list.
-/
namespace ManifestLint

/-- Whether a violation reports a call of a legacy validation function. -/
def Violation.reportsValidate (v : Violation) : Bool := v.opens Layering.validateOpening

namespace TokenStream

variable {s : TokenStream} {b : Block} {name head body : Nat} {params : Option Span}

theorem HeadAt.nextIs_iff (heads : s.HeadAt name params head) :
    s.nextIs name .lparen = true ↔ params.isSome = true := by
  rw [nextIs_eq_true_iff]
  cases heads with
  | bare other =>
    constructor
    · rintro ⟨next, after, opens⟩
      rw [other next after] at opens
      cases opens
    · intro given
      cases given
  | listed after opens _ => exact ⟨fun _ => rfl, fun _ => ⟨_, after, opens⟩⟩

theorem IsDefinition.isFunctionCall_iff (isDefinition : s.IsDefinition b name params head body) :
    s.isFunctionCall name = true ↔ b.kind.params?.isSome = true := by
  rw [isDefinition.kind_parts.2.1, ← isDefinition.heads.nextIs_iff, isFunctionCall,
    isDefinition.named, Bool.true_or, Bool.true_and]

theorem IsDefinition.fetches_iff (isDefinition : s.IsDefinition b name params head body) :
    s.Fetches name ↔
      b.kind.params?.isSome = true ∧ s.text name ∈ lookupFunction :: legacyLookupFunctions := by
  rw [← isDefinition.isFunctionCall_iff, List.mem_cons, Fetches, isLookup, isLegacyLookup,
    Bool.and_eq_true, Bool.and_eq_true, ← and_or_left, beq_iff_eq, List.contains_iff_mem]

theorem IsDefinition.isLegacyValidate_iff (isDefinition : s.IsDefinition b name params head body) :
    s.isLegacyValidate name = true ↔
      b.kind.params?.isSome = true ∧ validatePrefix <+: (s.text name).toList := by
  rw [← isDefinition.isFunctionCall_iff, isLegacyValidate, Bool.and_eq_true,
    List.isPrefixOf_iff_prefix]

theorem IsDefinition.not_inFinalDefault (isDefinition : s.IsDefinition b name params head body) :
    ¬ b.InFinalDefault s name := by
  rintro ⟨span, parameter, given, default⟩
  -- The name stands before the parameters, and every value within them.
  have inside := (Span.mem_positions span s name).mp (mem_of_mem_finalValue default)
  have behind := isDefinition.heads.bounds.2 span (isDefinition.kind_parts.2.1.symm.trans given)
  omega

end TokenStream

namespace Layering

variable {s : TokenStream}

/-! ### What is reported at a token -/

theorem exists_violation_iff {found : List Finding} {ctx : FileContext} {rule : RuleInfo} {i : Nat}
    {p : Violation → Prop} :
    (∃ v ∈ found.map (Finding.violation ctx rule), v.token = some i ∧ p v) ↔
      ∃ f ∈ found, f.site = .token i ∧ p (f.violation ctx rule) := by
  simp only [List.mem_map, exists_exists_and_eq_and, token_violation, Site.token?_eq_some_iff]

theorem Reports.exists_iff {profile : Bool} {found : List Finding} {wanted : Nat → Prop}
    (reports : Reports s profile found wanted) {i : Nat} :
    (∃ f ∈ found, f.site = .token i ∧ f.reportsFetch s profile = true) ↔ wanted i := by
  constructor
  · rintro ⟨f, member, site, reported⟩
    obtain ⟨j, site', want⟩ := reports.only f member reported
    cases site.symm.trans site'
    exact want
  · intro want
    have positive := reports.once i want
    obtain ⟨f, member, reported⟩ := List.countP_pos_iff.mp (positive ▸ Nat.one_pos)
    rw [Bool.and_eq_true, beq_iff_eq] at reported
    exact ⟨f, member, reported⟩

theorem opens_validate_of_mem_withoutLookups {b : Block} :
    ∀ f ∈ withoutLookups s b, f.opens validateOpening = false := by
  intro f member
  obtain ⟨i, -, found⟩ := List.mem_filterMap.mp member
  split at found
  · cases found
    simp [Finding.opens, Finding.at, validateOpening, toString, List.isPrefixOf_cons_cons]
  · split at found
    · cases found
      simp [Finding.opens, Finding.at, validateOpening, toString, List.isPrefixOf_cons_cons]
    · cases found

theorem opens_validate_of_mem_lookupsOutsideDefaults {b : Block} :
    ∀ f ∈ lookupsOutsideDefaults s b, f.opens validateOpening = false := by
  intro f member
  obtain ⟨i, -, found⟩ := List.mem_filterMap.mp member
  split at found
  next asked =>
    cases found
    -- The message goes on with the name of one of the functions, and none of them is spelled so.
    rw [Bool.and_eq_true, Bool.or_eq_true] at asked
    have called := (TokenStream.fetches_iff.mp asked.1).2.1
    simp only [lookupFunction, legacyLookupFunctions, List.mem_cons, List.not_mem_nil,
      or_false] at called
    rcases called with text | text | text | text
    all_goals simp [Finding.opens, Finding.at, validateOpening, toString, text,
      List.isPrefixOf_cons_cons]
  · cases found

theorem exists_validate_iff (c : Conventions) {b : Block} (other : b.kind.isNode = false) {i : Nat} :
    (∃ f ∈ blockFindings c s b, f.site = .token i ∧ f.opens validateOpening = true) ↔
      i ∈ b.positions s ∧ s.isLegacyValidate i = true := by
  obtain ⟨quiet, same, silent⟩ := exists_quiet (s := s) c other
  constructor
  · rintro ⟨f, member, site, opens⟩
    rcases List.mem_append.mp (same.mem_iff.mp member) with call | rest
    · rcases List.mem_append.mp call with fetch | validate
      · have other : f.opens validateOpening = false := by
          split at fetch
          · exact opens_validate_of_mem_lookupsOutsideDefaults f fetch
          · exact opens_validate_of_mem_withoutLookups f fetch
        rw [other] at opens
        cases opens
      · obtain ⟨-, j, listed, site', validates⟩ := mem_withoutLegacyValidates validate
        cases site.symm.trans site'
        exact ⟨listed, validates⟩
    · have start := List.isPrefixOf_iff_prefix.mp opens
      exact absurd (List.IsPrefix.trans (by decide) start) (silent f rest).silence
  · rintro ⟨listed, validates⟩
    have reported : Finding.at i
        s!"Found legacy function ({s.text i}) call in {b.kind.label} '{b.name s}'" ∈
          withoutLegacyValidates s b :=
      List.mem_map.mpr ⟨i, List.mem_filter.mpr ⟨listed, validates⟩, rfl⟩
    refine ⟨_, same.mem_iff.mpr (List.mem_append_left _ (List.mem_append_right _ reported)), rfl, ?_⟩
    exact List.isPrefixOf_iff_prefix.mpr (mem_withoutLegacyValidates reported).1

/-- The name of a class or a defined type is reported as a call exactly if a parameter list follows
and the name is that of a function that is looked for: one that fetches data, or one that begins like
the legacy validation functions. -/
theorem header_reported_iff (c : Conventions) (path root : String) {s : TokenStream} {b : Block}
    (member : b ∈ s.definitions) {name : Nat} (named : b.kind.name? = some name) :
    let violations := (blockFindings c s b).map (Finding.violation (.ofStream path s root) info)
    ((∃ v ∈ violations, v.token = some name ∧
        v.reportsFetch s (b.layer s c = .profile) = true) ↔
      b.kind.params?.isSome = true ∧ s.text name ∈ lookupFunction :: legacyLookupFunctions) ∧
    ((∃ v ∈ violations, v.token = some name ∧ v.reportsValidate = true) ↔
      b.kind.params?.isSome = true ∧ validatePrefix <+: (s.text name).toList) := by
  obtain ⟨name', params, head, body, isDefinition⟩ := TokenStream.mem_definitions_iff.mp member
  cases named.symm.trans isDefinition.kind_parts.1
  have listed : name ∈ b.positions s := by
    have bounds := isDefinition.bounds
    have inside := TokenStream.lt_size_of_isKind isDefinition.brace
    rw [Block.mem_positions]
    omega
  dsimp only
  constructor
  · rw [exists_violation_iff]
    simp only [reportsFetch_violation]
    rw [(reports_blockFindings c s b).exists_iff, isDefinition.fetches_iff]
    exact ⟨fun wanted => wanted.2.1,
      fun called => ⟨listed, called, fun exempt => isDefinition.not_inFinalDefault exempt.2⟩⟩
  · rw [exists_violation_iff]
    simp only [Violation.reportsValidate, opens_violation]
    rw [exists_validate_iff c isDefinition.kind_parts.2.2.2, isDefinition.isLegacyValidate_iff,
      and_iff_right listed]

/-- `class name ($a) { }`, by its name. -/
def classNamed (name : String) : TokenStream :=
  .ofList [.new .classKw "class" 1 1, .new .name name 1 7, .new .lparen "(" 1 20,
    .new .variable "$a" 1 21, .new .rparen ")" 1 23, .new .lbrace "\x7b" 1 25,
    .new .rbrace "\x7d" 1 26]

theorem header_reported_iff_of_validateHost :
    let s := classNamed "validate_host"
    let b : Block := ⟨0, 6, .classDef 1 (some ⟨3, 4⟩)⟩
    let violations := (blockFindings {} s b).map (Finding.violation (.ofStream "a.pp" s ".") info)
    (b ∈ s.definitions ∧ b.kind.name? = some 1) ∧
      (∃ v ∈ violations, v.token = some 1 ∧ v.reportsValidate = true) ∧
      ¬ ∃ v ∈ violations, v.token = some 1 ∧
        v.reportsFetch s (b.layer s {} = .profile) = true := by
  intro s b violations
  have member : b ∈ s.definitions := by decide +kernel
  have named : b.kind.name? = some 1 := rfl
  have reported := header_reported_iff {} "a.pp" "." member named
  refine ⟨⟨member, named⟩, reported.2.mpr (by decide +kernel), mt reported.1.mp ?_⟩
  decide +kernel

/-- The name of a class in its own header is reported as a call that fetches data. -/
theorem exists_header_reported :
    ∃ (s : TokenStream) (b : Block) (name : Nat), b ∈ s.definitions ∧ b.kind.name? = some name ∧
      ∃ v ∈ (blockFindings {} s b).map (Finding.violation (.ofStream "a.pp" s ".") info),
        v.token = some name ∧ v.reportsFetch s (b.layer s {} = .profile) = true :=
  ⟨classNamed "lookup", ⟨0, 6, .classDef 1 (some ⟨3, 4⟩)⟩, 1, by decide +kernel⟩

end Layering

end ManifestLint
