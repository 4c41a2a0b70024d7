import ManifestLint.Proofs.Layering.Conformance
import ManifestLint.Proofs.Linter.RepairPass
import ManifestLint.Proofs.Parameter.Reading

/-!
# Every call that fetches data is reported

Three searches look for calls that fetch data: one in profiles, one in all other classes and in
defined types, and one in nodes. In every block each such call is reported once and at itself, except
in the final default of a parameter of a profile, and nothing else is reported as such a call.

What is shared is said of lists of findings (`Reports`): a search through positions reports what it
is looking for, and findings of another kind may be added in any order.
-/
namespace ManifestLint

/-! ### Calls and reports of calls -/

/-- A name, or the name of a function, that spells a function which fetches data and has an opening
parenthesis as its next code token. -/
def TokenStream.CallsFetch (s : TokenStream) (i : Nat) : Prop :=
  (s.isKind i .name = true ∨ s.isKind i .functionName = true) ∧
    s.text i ∈ lookupFunction :: legacyLookupFunctions ∧
      ∃ next, s.CodeAfter i next ∧ s.isKind next .lparen = true

/-- A token in the final value of a parameter: the one that the last segment with a value for it
gives. -/
def Block.InFinalDefault (s : TokenStream) (b : Block) (i : Nat) : Prop :=
  ∃ span name, b.kind.params? = some span ∧
    i ∈ s.finalValue (s.segments (span.positions s)) name

/-- Whether the message of a violation opens in a given way. -/
def Violation.opens (v : Violation) (opening : String) : Bool :=
  (Layering.messageStart ++ opening).toList.isPrefixOf v.message.toList

/-- Whether a violation reports a call that fetches data. The wording of profiles names the function
that is called. -/
def Violation.reportsFetch (s : TokenStream) (profile : Bool) (v : Violation) : Bool :=
  v.opens "Found lookup call" || v.opens "Found deprecated" ||
    profile && v.token.any fun i => v.opens s!"Found {s.text i} call"

namespace TokenStream

variable {s : TokenStream} {i : Nat}

theorem nextIs_eq_true_iff {kind : TokenKind} :
    s.nextIs i kind = true ↔ ∃ next, s.CodeAfter i next ∧ s.isKind next kind = true := by
  simp only [nextIs, Option.any_eq_true, next?_eq_some_iff]

theorem fetches_iff : s.Fetches i ↔ s.CallsFetch i := by
  simp only [Fetches, isLookup, isLegacyLookup, isFunctionCall, CallsFetch, Bool.and_eq_true,
    Bool.or_eq_true, beq_iff_eq, List.contains_iff_mem, nextIs_eq_true_iff, List.mem_cons]
  rw [← and_or_left, and_right_comm, and_assoc]

theorem inDefault_iff (positions : List Nat) :
    (s.parameters positions).inDefault i = true ↔
      ∃ name, i ∈ s.finalValue (s.segments positions) name := by
  have reads := s.parameters_reads positions
  simp only [Parameters.inDefault, List.any_eq_true, List.contains_iff_mem]
  constructor
  · rintro ⟨p, member, inside⟩
    exact ⟨p.name, reads.values p member ▸ inside⟩
  · rintro ⟨name, inside⟩
    -- A name with a final value is declared, so it is the name of a parameter.
    have declared : ∃ j ∈ (s.segments positions).flatMap s.declaredIn, s.variableName j = name := by
      by_contra none
      push Not at none
      rw [finalValue_eq_nil none] at inside
      cases inside
    obtain ⟨p, member, named⟩ := (reads.mem_names_iff name).mpr declared
    exact ⟨p, member, by rwa [reads.values p member, named]⟩

end TokenStream

theorem Block.inDefault_iff {s : TokenStream} {b : Block} {i : Nat} :
    (b.parameters s).inDefault i = true ↔ b.InFinalDefault s i := by
  rw [Block.parameters, Block.InFinalDefault]
  cases b.kind.params? with
  | none => simp [Parameters.inDefault]
  | some span => simp [TokenStream.inDefault_iff]

namespace Layering

/-- Whether the message of a finding opens in a given way. -/
def Finding.opens (f : Finding) (opening : String) : Bool :=
  opening.toList.isPrefixOf f.message.toList

/-- Whether the violation of a finding reports a call that fetches data. -/
def Finding.reportsFetch (s : TokenStream) (profile : Bool) (f : Finding) : Bool :=
  f.opens "Found lookup call" || f.opens "Found deprecated" ||
    profile && f.site.token?.any fun i => f.opens s!"Found {s.text i} call"

theorem opens_violation (ctx : FileContext) (rule : RuleInfo) (f : Finding) (opening : String) :
    (f.violation ctx rule).opens opening = f.opens opening := by
  rw [Bool.eq_iff_iff, Violation.opens, Finding.opens, message_violation,
    List.isPrefixOf_iff_prefix, List.isPrefixOf_iff_prefix, String.toList_append,
    String.toList_append, List.prefix_append_right_inj]

theorem reportsFetch_violation (s : TokenStream) (profile : Bool) (ctx : FileContext)
    (rule : RuleInfo) (f : Finding) :
    (f.violation ctx rule).reportsFetch s profile = f.reportsFetch s profile := by
  simp only [Violation.reportsFetch, Finding.reportsFetch, opens_violation, token_violation]

/-! ### Findings that are no such report -/

theorem opens_eq_false {f : Finding} {wording opening : String}
    (worded : wording.toList <+: f.message.toList)
    (differ : ¬ opening.toList <+: wording.toList ∧ ¬ wording.toList <+: opening.toList)
    {more : String} (start : opening.toList <+: more.toList) : f.opens more = false := by
  refine Bool.eq_false_iff.mpr fun opens => ?_
  -- Of two openings of one message, one begins with the other.
  have opening' := start.trans (List.isPrefixOf_iff_prefix.mp opens)
  exact (List.prefix_or_prefix_of_prefix opening' worded).elim differ.1 differ.2

variable {s : TokenStream} {profile : Bool}

theorem reportsFetch_eq_false {f : Finding} (silence : ∀ more : String,
    callOpening.toList <+: more.toList → f.opens more = false) :
    f.reportsFetch s profile = false := by
  have named (i : Nat) : f.opens s!"Found {s.text i} call" = false :=
    silence _ (by simp [callOpening, toString])
  simp only [Finding.reportsFetch, silence "Found lookup call" (by decide),
    silence "Found deprecated" (by decide), named]
  cases f.site.token? <;> simp

theorem reportsFetch_of_quiet {f : Finding} (quiet : f.Quiet s) :
    f.reportsFetch s profile = false :=
  reportsFetch_eq_false fun _ start => Bool.eq_false_iff.mpr fun opens =>
    quiet.silence (start.trans (List.isPrefixOf_iff_prefix.mp opens))

theorem reportsFetch_of_mem_nodeTitles {c : Conventions} {b : Block} :
    ∀ f ∈ nodeTitles c s b, f.reportsFetch s profile = false := by
  intro f member
  obtain ⟨i, -, found⟩ := List.mem_flatMap.mp member
  have worded : "node ".toList <+: f.message.toList := by
    cases regex : s.isKind i .regex with
    | true =>
      rw [nodeTitle_of_regex c regex] at found
      obtain ⟨problem, -, about⟩ := List.mem_flatMap.mp found
      have complaint := (mem_problemFindings c about).2.1
      cases problem <;> exact List.IsPrefix.trans (by decide) complaint
    | false =>
      rw [nodeTitle, regex, if_neg Bool.false_ne_true, List.mem_singleton] at found
      rw [found]
      simp [Finding.at, toString]
  exact reportsFetch_eq_false fun _ => opens_eq_false worded (by decide)

/-- How findings about legacy validation functions begin. -/
def validateOpening : String := "Found legacy function ("

theorem mem_withoutLegacyValidates {b : Block} {f : Finding}
    (member : f ∈ withoutLegacyValidates s b) :
    validateOpening.toList <+: f.message.toList ∧
      ∃ i ∈ b.positions s, f.site = .token i ∧ s.isLegacyValidate i = true := by
  obtain ⟨i, call, rfl⟩ := List.mem_map.mp member
  obtain ⟨listed, validates⟩ := List.mem_filter.mp call
  exact ⟨by simp [Finding.at, validateOpening, toString], i, listed, rfl, validates⟩

theorem reportsFetch_of_mem_withoutLegacyValidates {b : Block} :
    ∀ f ∈ withoutLegacyValidates s b, f.reportsFetch s profile = false := by
  intro f member
  obtain ⟨worded, i, -, site, validates⟩ := mem_withoutLegacyValidates member
  rw [TokenStream.isLegacyValidate, Bool.and_eq_true] at validates
  -- The name of a legacy validation function is none of those that the other wordings spell.
  have first : ['v'] <+: (s.text i).toList :=
    List.IsPrefix.trans (by decide) (List.isPrefixOf_iff_prefix.mp validates.2)
  have start : "Found v".toList <+: s!"Found {s.text i} call".toList := by
    simpa [toString] using first.trans (List.prefix_append _ " call".toList)
  have named := opens_eq_false worded (by decide) start
  have lookup := opens_eq_false worded (by decide) (List.prefix_refl "Found lookup call".toList)
  have deprecated := opens_eq_false worded (by decide) (List.prefix_refl "Found deprecated".toList)
  simp [Finding.reportsFetch, site, Site.token?, lookup, deprecated, named]

/-! ### Lists of findings -/

/-- Findings that report the wanted tokens, each once, and nothing else as a call that fetches
data. -/
structure Reports (s : TokenStream) (profile : Bool) (found : List Finding) (wanted : Nat → Prop) :
    Prop where
  once : ∀ i, wanted i →
    found.countP (fun f => f.site == .token i && f.reportsFetch s profile) = 1
  only : ∀ f ∈ found, f.reportsFetch s profile = true → ∃ i, f.site = .token i ∧ wanted i

variable {found : List Finding} {wanted : Nat → Prop}

theorem Reports.append_silent (reports : Reports s profile found wanted) {others : List Finding}
    (silent : ∀ f ∈ others, f.reportsFetch s profile = false) :
    Reports s profile (found ++ others) wanted where
  once := by
    intro i want
    have none : others.countP (fun f => f.site == .token i && f.reportsFetch s profile) = 0 := by
      refine List.countP_eq_zero.mpr fun f member => ?_
      rw [silent f member, Bool.and_false]
      exact Bool.false_ne_true
    rw [List.countP_append, reports.once i want, none]
  only := by
    intro f member reported
    rcases List.mem_append.mp member with old | other
    · exact reports.only f old reported
    · rw [silent f other] at reported
      cases reported

theorem Reports.perm (reports : Reports s profile found wanted) {found' : List Finding}
    (same : found'.Perm found) : Reports s profile found' wanted where
  once := fun i want => by rw [same.countP_eq, reports.once i want]
  only := fun f member => reports.only f (same.mem_iff.mp member)

/-- A search through distinct positions reports the wanted ones if it reports each of them at itself
and is silent about the others. -/
theorem reports_filterMap {positions : List Nat} (distinct : positions.Nodup)
    {search : Nat → Option Finding}
    (told : ∀ i, wanted i →
      ∃ f, search i = some f ∧ f.site = .token i ∧ f.reportsFetch s profile = true)
    (silent : ∀ i, ¬ wanted i → ∀ f, search i = some f → f.reportsFetch s profile = false) :
    Reports s profile (positions.filterMap search) fun i => i ∈ positions ∧ wanted i := by
  have own : ∀ i f, search i = some f → f.reportsFetch s profile = true →
      f.site = .token i ∧ wanted i := by
    intro i f found reported
    by_cases want : wanted i
    · obtain ⟨g, found', site, -⟩ := told i want
      cases found.symm.trans found'
      exact ⟨site, want⟩
    · rw [silent i want f found] at reported
      cases reported
  constructor
  · rintro i ⟨member, want⟩
    obtain ⟨f, found, site, reported⟩ := told i want
    rw [List.countP_filterMap, ← List.count_eq_one_of_mem distinct member]
    -- Only the search at the position itself comes to a report of it.
    refine List.countP_congr fun j _ => ?_
    rw [beq_iff_eq]
    constructor
    · intro here
      cases found' : search j with
      | none => simp [found'] at here
      | some g =>
        simp only [found', Option.map_some, Option.getD_some, Bool.and_eq_true, beq_iff_eq] at here
        exact Site.token.inj ((own j g found' here.2).1.symm.trans here.1)
    · rintro rfl
      simp [found, site, reported]
  · intro f member reported
    obtain ⟨i, listed, found⟩ := List.mem_filterMap.mp member
    obtain ⟨site, want⟩ := own i f found reported
    exact ⟨i, site, listed, want⟩

/-! ### The three searches -/

theorem reports_withoutLookups (profile : Bool) (s : TokenStream) (b : Block) :
    Reports s profile (withoutLookups s b) fun i => i ∈ b.positions s ∧ s.Fetches i := by
  refine reports_filterMap (positions_nodup b s) (fun i fetches => ?_) fun i other f found => ?_
  · cases lookup : s.isLookup i with
    | true =>
      refine ⟨_, if_pos rfl, rfl, ?_⟩
      simp [Finding.reportsFetch, Finding.opens, Finding.at, toString]
    | false =>
      have legacy : s.isLegacyLookup i = true := by simpa [TokenStream.Fetches, lookup] using fetches
      refine ⟨_, (if_neg Bool.false_ne_true).trans (if_pos legacy), rfl, ?_⟩
      simp [Finding.reportsFetch, Finding.opens, Finding.at, toString]
  · rw [TokenStream.Fetches, not_or] at other
    simp [other.1, other.2] at found

theorem reports_lookupsOutsideDefaults (s : TokenStream) (b : Block) :
    Reports s true (lookupsOutsideDefaults s b) fun i =>
      i ∈ b.positions s ∧ s.Fetches i ∧ ¬ b.InFinalDefault s i := by
  have asked (i : Nat) : ((s.isLookup i || s.isLegacyLookup i) &&
      !(b.parameters s).inDefault i) = true ↔ s.Fetches i ∧ ¬ b.InFinalDefault s i := by
    rw [Bool.and_eq_true, Bool.or_eq_true, Bool.not_eq_true', ← Bool.not_eq_true,
      Block.inDefault_iff, TokenStream.Fetches]
  refine reports_filterMap (positions_nodup b s) (fun i wanted => ?_) fun i other f found => ?_
  · refine ⟨_, if_pos ((asked i).mpr wanted), rfl, ?_⟩
    simp [Finding.reportsFetch, Finding.opens, Finding.at, Site.token?, toString]
  · rw [if_neg (mt (asked i).mp other)] at found
    cases found

theorem reportsFetch_of_nodeStatement {c : Conventions} {title : String} {i : Nat}
    (other : ¬ s.Fetches i) {f : Finding} (found : nodeStatement c s title i = some f) :
    f.reportsFetch s profile = false := by
  obtain ⟨noLookup, noLegacy⟩ := not_or.mp other
  have worded : "node '".toList <+: f.message.toList := by
    rw [nodeStatement, if_neg noLookup, if_neg noLegacy] at found
    split at found
    · cases found
      simp [Finding.at, toString]
    · split at found
      · cases found
        simp [Finding.at, toString]
      · dsimp only at found
        split at found
        · cases found
          simp [Finding.at, toString]
        · cases found
  exact reportsFetch_eq_false fun _ => opens_eq_false worded (by decide)

theorem reports_nodeBody (profile : Bool) (c : Conventions) (s : TokenStream) (b : Block) :
    Reports s profile (nodeBody c s b) fun i => i ∈ b.positions s ∧ s.Fetches i := by
  refine reports_filterMap (positions_nodup b s) (fun i fetches => ?_) fun i other f found => ?_
  · cases lookup : s.isLookup i with
    | true =>
      refine ⟨_, if_pos lookup, rfl, ?_⟩
      simp [Finding.reportsFetch, Finding.opens, Finding.at, toString]
    | false =>
      have legacy : s.isLegacyLookup i = true := by simpa [TokenStream.Fetches, lookup] using fetches
      have noLookup : ¬ s.isLookup i = true := Bool.eq_false_iff.mp lookup
      refine ⟨_, (if_neg noLookup).trans (if_pos legacy), rfl, ?_⟩
      simp [Finding.reportsFetch, Finding.opens, Finding.at, toString]
  · exact reportsFetch_of_nodeStatement other found

/-- Of the calls in a block that fetch data, those in the final default of a parameter of a profile
are exempt. -/
def Exempt (c : Conventions) (s : TokenStream) (b : Block) (i : Nat) : Prop :=
  b.layer s c = .profile ∧ b.InFinalDefault s i

theorem reports_blockFindings (c : Conventions) (s : TokenStream) (b : Block) :
    Reports s (b.layer s c = .profile) (blockFindings c s b) fun i =>
      i ∈ b.positions s ∧ s.Fetches i ∧ ¬ Exempt c s b i := by
  have elsewhere (noProfile : b.layer s c ≠ .profile) {found : List Finding}
      (reports : Reports s false found fun i => i ∈ b.positions s ∧ s.Fetches i) :
      Reports s (b.layer s c = .profile) found fun i =>
        i ∈ b.positions s ∧ s.Fetches i ∧ ¬ Exempt c s b i := by
    simpa only [Exempt, noProfile, false_and, not_false_eq_true, and_true, decide_false] using reports
  cases node : b.kind.isNode with
  | true =>
    have noProfile : b.layer s c ≠ .profile := by
      intro profile
      have layer := (isDefinedType_and_isNode_eq c s b).2
      rw [node, profile] at layer
      cases layer
    rw [blockFindings_of_isNode c node]
    exact (elsewhere noProfile (reports_nodeBody false c s b)).append_silent
      reportsFetch_of_mem_nodeTitles
  | false =>
    obtain ⟨quiet, same, silent⟩ := exists_quiet (s := s) c node
    have fetching : Reports s (b.layer s c = .profile)
        (if b.layer s c = .profile then lookupsOutsideDefaults s b else withoutLookups s b)
        fun i => i ∈ b.positions s ∧ s.Fetches i ∧ ¬ Exempt c s b i := by
      split
      next profile =>
        simpa only [Exempt, profile, true_and, decide_true] using reports_lookupsOutsideDefaults s b
      next noProfile => exact elsewhere noProfile (reports_withoutLookups false s b)
    refine Reports.perm ?_ same
    exact (fetching.append_silent reportsFetch_of_mem_withoutLegacyValidates).append_silent
      fun f member => reportsFetch_of_quiet (silent f member)

/-- No call that fetches data escapes. In every block of a stream each such call is reported once,
at itself, unless it stands in the final default of a parameter of a profile, where it is not
reported; and whatever is reported as such a call is one, within the block. -/
theorem fetches_reported_once (c : Conventions) (path root : String) {s : TokenStream} {b : Block}
    (member : b ∈ s.definitions ++ s.nodes) :
    let violations := (blockFindings c s b).map (Finding.violation (.ofStream path s root) info)
    let profile : Bool := b.layer s c = .profile
    (∀ i, b.Spans i → s.CallsFetch i →
      let reports := violations.countP fun v => v.token == some i && v.reportsFetch s profile
      (Exempt c s b i → reports = 0) ∧ (¬ Exempt c s b i → reports = 1)) ∧
    ∀ v ∈ violations, v.reportsFetch s profile = true →
      ∃ i, v.token = some i ∧ b.Spans i ∧ s.CallsFetch i := by
  have inside : b.stop < s.size :=
    TokenStream.lt_size_of_isKind (TokenStream.framed_of_mem member).closes
  have reports := reports_blockFindings c s b
  simp only [mem_positions_iff inside, TokenStream.fetches_iff] at reports
  dsimp only
  constructor
  · intro i spanned call
    have counted : ((blockFindings c s b).map
        (Finding.violation (.ofStream path s root) info)).countP
          (fun v => v.token == some i && v.reportsFetch s (b.layer s c = .profile)) =
        (blockFindings c s b).countP
          fun f => f.site == .token i && f.reportsFetch s (b.layer s c = .profile) := by
      rw [List.countP_map]
      refine List.countP_congr fun f _ => ?_
      simp only [Function.comp, token_violation, reportsFetch_violation, Bool.and_eq_true,
        beq_iff_eq, Site.token?_eq_some_iff]
    rw [counted]
    constructor
    · intro exempt
      -- A report of this token would be one of a wanted token, and this one is exempt.
      refine List.countP_eq_zero.mpr fun f found reported => ?_
      rw [Bool.and_eq_true, beq_iff_eq] at reported
      obtain ⟨j, site, -, -, wanted⟩ := reports.only f found reported.2
      cases reported.1.symm.trans site
      exact wanted exempt
    · intro wanted
      exact reports.once i ⟨spanned, call, wanted⟩
  · intro v reported fetch
    obtain ⟨f, found, rfl⟩ := List.mem_map.mp reported
    rw [reportsFetch_violation] at fetch
    obtain ⟨i, site, spanned, call, -⟩ := reports.only f found fetch
    refine ⟨i, ?_, spanned, call⟩
    rw [token_violation, Site.token?_eq_some_iff, site]

/-- `class profile::a ($x = hiera('k'), $x = lookup('k')) { lookup('k') }`: a default that a later one
overwrites, the final default, and a call in the body. -/
def overwrittenDefault : TokenStream :=
  .ofList [.new .classKw "class" 1 1, .new .name "profile::a" 1 7, .new .lparen "(" 1 18,
    .new .variable "$x" 1 19, .new .equals "=" 1 22, .new .name "hiera" 1 24,
    .new .lparen "(" 1 29, .new .quoted "k" 1 30, .new .rparen ")" 1 33, .new .comma "," 1 34,
    .new .variable "$x" 1 36, .new .equals "=" 1 39, .new .name "lookup" 1 41,
    .new .lparen "(" 1 47, .new .quoted "k" 1 48, .new .rparen ")" 1 51, .new .rparen ")" 1 52,
    .new .lbrace "\x7b" 1 54, .new .name "lookup" 1 56, .new .lparen "(" 1 62,
    .new .quoted "k" 1 63, .new .rparen ")" 1 66, .new .rbrace "\x7d" 1 68]

/-- Only the call in the final default goes unreported. -/
theorem fetches_reported_once_of_overwrittenDefault :
    let s := overwrittenDefault
    let b : Block := ⟨0, 22, .classDef 1 (some ⟨3, 16⟩)⟩
    let violations := (blockFindings {} s b).map (Finding.violation (.ofStream "a.pp" s ".") info)
    let reports (i : Nat) := violations.countP fun v =>
      v.token == some i && v.reportsFetch s (b.layer s {} = .profile)
    b ∈ s.definitions ∧ (s.CallsFetch 5 ∧ s.CallsFetch 12 ∧ s.CallsFetch 18) ∧
      Exempt {} s b 12 ∧ reports 5 = 1 ∧ reports 12 = 0 ∧ reports 18 = 1 := by
  intro s b violations reports
  have member : b ∈ s.definitions := by decide +kernel
  have once := (fetches_reported_once {} "a.pp" "." (List.mem_append_left s.nodes member)).1
  have calls : s.CallsFetch 5 ∧ s.CallsFetch 12 ∧ s.CallsFetch 18 := by
    simp only [← TokenStream.fetches_iff, TokenStream.Fetches]
    decide +kernel
  have overwritten : ¬ Exempt {} s b 5 ∧ Exempt {} s b 12 ∧ ¬ Exempt {} s b 18 := by
    simp only [Exempt, ← Block.inDefault_iff]
    decide +kernel
  refine ⟨member, calls, overwritten.2.1, ?_, ?_, ?_⟩
  · exact (once 5 ⟨by decide, by decide⟩ calls.1).2 overwritten.1
  · exact (once 12 ⟨by decide, by decide⟩ calls.2.1).1 overwritten.2.1
  · exact (once 18 ⟨by decide, by decide⟩ calls.2.2).2 overwritten.2.2

end Layering

end ManifestLint
