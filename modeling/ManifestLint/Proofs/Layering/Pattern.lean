import ManifestLint.Proofs.Block.Extent
import ManifestLint.Proofs.Layering.Ordinary
import ManifestLint.Proofs.NodePattern.Mending
import ManifestLint.Proofs.NodePattern.Stripping

/-!
# Findings about node patterns

A pattern can have three problems, each with its repair. Problems are told apart by how their
messages begin, and a problem is reported at a token exactly when the token is a regular expression
among the titles of a node and has it. The repairs asked for at a token are the ones its text wants.
-/
namespace ManifestLint

/-- How the message about the problem of a repair begins. -/
def Repair.complaint : Repair → String
  | .anchorStart => "node regex must match from the start"
  | .dropEndAnchor => "node regex must not be anchored at the end"
  | .stripDomain => "node regex must not contain"

/-- Whether the text of a pattern has the problem of a repair. A domain counts wherever it stands,
also where its repair does not reach. -/
def NodePattern.Suffers (domains : List String) (text : String) : Repair → Prop
  | .anchorStart => NodePattern.isStartAnchored (NodePattern.split text.toList).2 = false
  | .dropEndAnchor => NodePattern.isEndAnchored (NodePattern.split text.toList).2 = true
  | .stripDomain => NodePattern.domainIn? domains (NodePattern.split text.toList).2 ≠ none

/-- The titles of all nodes. -/
def TokenStream.nodeTitles (s : TokenStream) : List Nat :=
  s.nodes.flatMap fun b => b.titleTokens s

namespace TokenStream

/-- The patterns among the titles of all nodes. -/
def patterns (s : TokenStream) : List String :=
  (s.nodeTitles.filter fun i => s.isKind i .regex).map s.text

/-- Stripping comes to an end on every pattern on which the check of a stream tries it: on each that
suffers from a domain. -/
def StrippingEnds (s : TokenStream) (domains : List String) : Prop :=
  ∀ text ∈ s.patterns, NodePattern.Suffers domains text .stripDomain →
    ∃ result, NodePattern.Strips domains (NodePattern.split text.toList).2 result

/-- Stripping comes to an end in a stream exactly if no domain is empty or there is nothing to strip
off the patterns that suffer from one. -/
theorem strippingEnds_iff {s : TokenStream} {domains : List String} :
    s.StrippingEnds domains ↔ "" ∉ domains ∨
      ∀ text ∈ s.patterns, NodePattern.Suffers domains text .stripDomain →
        NodePattern.stripOnce? domains (NodePattern.split text.toList).2 = none := by
  simp only [StrippingEnds, NodePattern.Strips.ends_iff]
  by_cases named : "" ∉ domains <;> simp [named]

end TokenStream

theorem Repair.complaint_inj {first second : Repair} {message : List Char}
    (one : first.complaint.toList <+: message) (other : second.complaint.toList <+: message) :
    first = second := by
  -- Of two openings of one message the shorter begins the longer.
  rcases List.prefix_or_prefix_of_prefix one other with shorter | longer
  · cases first <;> cases second <;> first | rfl | exact absurd shorter (by decide)
  · cases first <;> cases second <;> first | rfl | exact absurd longer (by decide)

namespace Layering

variable (c : Conventions) {s : TokenStream}

/-- The findings about one problem of a pattern. -/
def problemFindings (i : Nat) (text : String) : Repair → List Finding
  | .anchorStart => startProblem i text
  | .dropEndAnchor => endProblem i text
  | .stripDomain => domainProblem c i text

theorem nodeTitle_of_regex {i : Nat} (regex : s.isKind i .regex = true) :
    nodeTitle c s i = Repair.all.flatMap (problemFindings c i (s.text i)) := by
  simp [nodeTitle, regex, Repair.all, problemFindings]

/-! ### One problem -/

theorem mem_problemFindings {i : Nat} {text : String} {problem : Repair} {f : Finding}
    (member : f ∈ problemFindings c i text problem) :
    f.site = .token i ∧ problem.complaint.toList <+: f.message.toList ∧
      (f.repair = none ∨ f.repair = some problem) := by
  cases problem with
  | anchorStart =>
    rw [problemFindings, startProblem] at member
    split at member
    · cases member
    · rw [List.mem_singleton.mp member]
      exact ⟨rfl, by simp [Finding.fixable, Repair.complaint, toString], Or.inr rfl⟩
  | dropEndAnchor =>
    rw [problemFindings, endProblem] at member
    split at member
    · rw [List.mem_singleton.mp member]
      exact ⟨rfl, by simp [Finding.fixable, Repair.complaint, toString], Or.inr rfl⟩
    · cases member
  | stripDomain =>
    rw [problemFindings, domainProblem] at member
    split at member
    · cases member
    · dsimp only at member
      split at member
      · rw [List.mem_singleton.mp member]
        exact ⟨rfl, by simp [Finding.at, Repair.complaint, toString], Or.inl rfl⟩
      · rw [List.mem_singleton.mp member]
        exact ⟨rfl, by simp [Finding.fixable, Repair.complaint, toString], Or.inr rfl⟩

theorem problemFindings_ne_nil_iff {i : Nat} {text : String} {problem : Repair} :
    problemFindings c i text problem ≠ [] ↔
      NodePattern.Suffers c.disallowedDomains text problem := by
  cases problem with
  | anchorStart =>
    rw [problemFindings, startProblem, NodePattern.Suffers]
    cases NodePattern.isStartAnchored (NodePattern.split text.toList).2 <;> simp
  | dropEndAnchor =>
    rw [problemFindings, endProblem, NodePattern.Suffers]
    cases NodePattern.isEndAnchored (NodePattern.split text.toList).2 <;> simp
  | stripDomain =>
    rw [problemFindings, domainProblem, NodePattern.Suffers]
    split
    next none => simp [none]
    next domain found =>
      dsimp only
      split <;> simp [found]

theorem repairs_startProblem (i : Nat) (text : String) :
    (startProblem i text).filterMap Finding.repair =
      if NodePattern.isStartAnchored (NodePattern.split text.toList).2 then []
      else [.anchorStart] := by
  rw [startProblem]
  split <;> rfl

theorem repairs_endProblem (i : Nat) (text : String) :
    (endProblem i text).filterMap Finding.repair =
      if NodePattern.isEndAnchored (NodePattern.split text.toList).2 = false then []
      else [.dropEndAnchor] := by
  rw [endProblem]
  cases NodePattern.isEndAnchored (NodePattern.split text.toList).2 <;> rfl

theorem repairs_domainProblem (i : Nat) (text : String) :
    (domainProblem c i text).filterMap Finding.repair =
      if NodePattern.domainIn? c.disallowedDomains (NodePattern.split text.toList).2 = none ∨
          NodePattern.stripDomains c.disallowedDomains (NodePattern.split text.toList).2 =
            (NodePattern.split text.toList).2
      then [] else [.stripDomain] := by
  -- Whether the repair is offered is decided on texts, and what it does on bodies.
  have idle := NodePattern.apply_eq_self_iff c.disallowedDomains .stripDomain text
  rw [Repair.applyBody] at idle
  rw [domainProblem]
  split
  next none =>
    rw [if_pos (Or.inl none)]
    rfl
  next domain found =>
    dsimp only
    split
    next same =>
      rw [if_pos (Or.inr (idle.mp (beq_iff_eq.mp same)))]
      rfl
    next changed =>
      have some : NodePattern.domainIn? c.disallowedDomains (NodePattern.split text.toList).2 ≠
          none := by
        rw [found]
        exact Option.some_ne_none domain
      have differs := fun same => changed (beq_iff_eq.mpr (idle.mpr same))
      rw [if_neg (not_or.mpr ⟨some, differs⟩)]
      rfl

/-! ### The repairs asked for at a token -/

/-- The repair that a finding asks for at a token. -/
def Finding.repairAt (j : Nat) (f : Finding) : Option Repair :=
  if f.site = .token j then f.repair else none

theorem repairs_ordinary {found : List Finding} (ordinary : ∀ f ∈ found, f.Ordinary s) (j : Nat) :
    found.filterMap (Finding.repairAt j) = [] := by
  rw [List.filterMap_eq_nil_iff]
  intro f member
  rw [Finding.repairAt, (ordinary f member).repair, ite_self]

theorem repairs_nodeTitle (i j : Nat) :
    (nodeTitle c s i).filterMap (Finding.repairAt j) =
      if i = j ∧ s.isKind i .regex = true then NodePattern.wanted c.disallowedDomains (s.text i)
      else [] := by
  cases regex : s.isKind i .regex with
  | false => simp [nodeTitle, regex, Finding.repairAt, Finding.at]
  | true =>
    rw [nodeTitle_of_regex c regex]
    -- All findings of a title stand at it, so they count for this token or for none.
    have sites : ∀ f ∈ Repair.all.flatMap (problemFindings c i (s.text i)),
        f.repairAt j = if i = j then f.repair else none := by
      intro f member
      obtain ⟨problem, _, found⟩ := List.mem_flatMap.mp member
      simp only [Finding.repairAt, (mem_problemFindings c found).1, Site.token.injEq]
    rw [List.filterMap_congr sites]
    by_cases same : i = j
    · simp only [same, true_and, if_true]
      rw [← same]
      simp only [Repair.all, problemFindings, List.flatMap_cons, List.flatMap_nil, List.append_nil,
        List.filterMap_append, repairs_startProblem, repairs_endProblem, repairs_domainProblem,
        NodePattern.wanted, List.append_assoc]
    · simp [same]

/-! ### The findings of a block and of a stream -/

/-- Which layers the kind of a block decides. -/
theorem isDefinedType_and_isNode_eq (c : Conventions) (s : TokenStream) (b : Block) :
    b.kind.isDefinedType = decide (b.layer s c = .definedType) ∧
      b.kind.isNode = decide (b.layer s c = .node) := by
  rw [Block.layer]
  cases b.kind with
  | classDef =>
    dsimp only
    split
    · exact ⟨rfl, rfl⟩
    split <;> exact ⟨rfl, rfl⟩
  | definedType => exact ⟨rfl, rfl⟩
  | node => exact ⟨rfl, rfl⟩

theorem blockFindings_of_isNode {b : Block} (node : b.kind.isNode = true) :
    blockFindings c s b = nodeBody c s b ++ nodeTitles c s b := by
  have layer : b.layer s c = .node := by
    have decided := (isDefinedType_and_isNode_eq c s b).2
    rw [node] at decided
    exact of_decide_eq_true decided.symm
  rw [blockFindings, layer, node, layerFindings, if_pos rfl, List.append_nil]

/-- What is reported about the calls in a class or a defined type. -/
def callFindings (c : Conventions) (s : TokenStream) (b : Block) : List Finding :=
  (if b.layer s c = .profile then lookupsOutsideDefaults s b else withoutLookups s b) ++
    withoutLegacyValidates s b

/-- Apart from the findings about calls, those of a class or a defined type are quiet. -/
theorem exists_quiet {b : Block} (other : b.kind.isNode = false) :
    ∃ quiet, (blockFindings c s b).Perm (callFindings c s b ++ quiet) ∧
      ∀ f ∈ quiet, f.Quiet s := by
  simp only [blockFindings, other, Bool.false_eq_true, if_false, deprecations, callFindings]
  have deprecated := quiet_deprecatedDefines (s := s) c b
  cases layer : b.layer s c with
  | profile =>
    refine ⟨parameterDefaults s b ++ profileIncludes c s b ++ roleResourceElsewhere c s b ++
      deprecatedDefines c s b, ?_, ?_⟩
    · simp only [layerFindings, if_true, List.perm_iff_count, List.count_append]
      omega
    · simp only [List.forall_mem_append]
      exact ⟨⟨⟨quiet_parameterDefaults b, quiet_profileIncludes c b⟩,
        quiet_roleResourceElsewhere c b⟩, deprecated⟩
  | role =>
    refine ⟨roleIncludes c s b ++ roleResourceOnce c s b ++ roleOtherResources c s b ++
      deprecatedDefines c s b, ?_, ?_⟩
    · simp only [layerFindings, reduceCtorEq, if_false, List.perm_iff_count, List.count_append]
      omega
    · simp only [List.forall_mem_append]
      exact ⟨⟨⟨quiet_roleIncludes c b, quiet_roleResourceOnce c b⟩,
        quiet_roleOtherResources c b⟩, deprecated⟩
  | plainClass =>
    refine ⟨foreignIncludes s b ++ foreignDeclarations s b ++ roleResourceElsewhere c s b ++
      deprecatedDefines c s b, ?_, ?_⟩
    · simp only [layerFindings, reduceCtorEq, if_false, List.perm_iff_count, List.count_append]
      omega
    · simp only [List.forall_mem_append]
      exact ⟨⟨⟨quiet_foreignIncludes b, quiet_foreignDeclarations b⟩,
        quiet_roleResourceElsewhere c b⟩, deprecated⟩
  | definedType =>
    refine ⟨(if b.module s == c.profileModule then [] else foreignDeclarations s b) ++
      deprecatedDefines c s b, ?_, ?_⟩
    · simp only [layerFindings, reduceCtorEq, if_false, List.perm_iff_count, List.count_append]
      omega
    · rw [List.forall_mem_append]
      refine ⟨?_, deprecated⟩
      split
      · exact fun _ none => absurd none List.not_mem_nil
      · exact quiet_foreignDeclarations b
  | node =>
    have node := (isDefinedType_and_isNode_eq c s b).2
    rw [other, layer] at node
    cases node

theorem ordinary_blockFindings {b : Block} (other : b.kind.isNode = false) :
    ∀ f ∈ blockFindings c s b, f.Ordinary s := by
  obtain ⟨quiet, same, silent⟩ := exists_quiet c other
  intro f member
  rcases List.mem_append.mp (same.mem_iff.mp member) with call | rest
  · rcases List.mem_append.mp call with fetch | validate
    · split at fetch
      · exact ordinary_lookupsOutsideDefaults b f fetch
      · exact ordinary_withoutLookups b f fetch
    · exact ordinary_withoutLegacyValidates b f validate
  · exact (silent f rest).toOrdinary

theorem titleTokens_of_not_isNode {b : Block} (other : b.kind.isNode = false) :
    b.titleTokens s = [] := by
  rw [Block.titleTokens]
  cases kind : b.kind with
  | node titles => simp [kind, BlockKind.isNode] at other
  | _ => rfl

/-- A finding is ordinary, or it is about a problem of a regular expression among the titles. -/
theorem mem_blockFindings {b : Block} {f : Finding} (member : f ∈ blockFindings c s b) :
    f.Ordinary s ∨ ∃ i ∈ b.titleTokens s, s.isKind i .regex = true ∧
      ∃ problem, f ∈ problemFindings c i (s.text i) problem := by
  cases node : b.kind.isNode with
  | false => exact Or.inl (ordinary_blockFindings c node f member)
  | true =>
    rw [blockFindings_of_isNode c node] at member
    rcases List.mem_append.mp member with body | titled
    · exact Or.inl (ordinary_nodeBody c b f body)
    · obtain ⟨i, title, found⟩ := List.mem_flatMap.mp titled
      have inside : i < s.size := of_decide_eq_true (List.mem_filter.mp title).2
      cases regex : s.isKind i .regex with
      | true =>
        rw [nodeTitle_of_regex c regex] at found
        obtain ⟨problem, _, about⟩ := List.mem_flatMap.mp found
        exact Or.inr ⟨i, title, regex, problem, about⟩
      | false =>
        left
        simp only [nodeTitle, regex, Bool.false_eq_true, if_false, List.mem_singleton] at found
        rw [found]
        exact ordinary_at inside (by simp [patternOpening, toString])

theorem problemFindings_subset {b : Block} {i : Nat} (title : i ∈ b.titleTokens s)
    (regex : s.isKind i .regex = true) (problem : Repair) :
    problemFindings c i (s.text i) problem ⊆ blockFindings c s b := by
  have node : b.kind.isNode = true := by
    cases node : b.kind.isNode with
    | true => rfl
    | false =>
      rw [titleTokens_of_not_isNode node] at title
      cases title
  intro f member
  rw [blockFindings_of_isNode c node]
  refine List.mem_append_right _ (List.mem_flatMap.mpr ⟨i, title, ?_⟩)
  rw [nodeTitle_of_regex c regex]
  exact List.mem_flatMap.mpr ⟨problem, by cases problem <;> decide, member⟩

theorem repairs_blockFindings (b : Block) (j : Nat) :
    (blockFindings c s b).filterMap (Finding.repairAt j) =
      (b.titleTokens s).flatMap fun i =>
        if i = j ∧ s.isKind i .regex = true then NodePattern.wanted c.disallowedDomains (s.text i)
        else [] := by
  cases node : b.kind.isNode with
  | false =>
    rw [repairs_ordinary (ordinary_blockFindings c node), titleTokens_of_not_isNode node]
    rfl
  | true =>
    rw [blockFindings_of_isNode c node, List.filterMap_append,
      repairs_ordinary (ordinary_nodeBody c b), List.nil_append, nodeTitles, List.filterMap_flatMap]
    congr 1
    funext i
    exact repairs_nodeTitle c i j

theorem titleTokens_of_mem_definitions {b : Block} (member : b ∈ s.definitions) :
    b.titleTokens s = [] := by
  exact titleTokens_of_not_isNode (TokenStream.isNode_of_mem_definitions member)

theorem nodeTitles_nodup (s : TokenStream) : s.nodeTitles.Nodup := by
  have filtered : s.nodeTitles = (s.nodes.flatMap fun b => b.kind.titles).filter (· < s.size) := by
    rw [List.filter_flatMap]
    rfl
  rw [filtered]
  exact (s.nodeTitles_increasing.imp Nat.ne_of_lt).filter _

theorem flatMap_ite_eq {titles : List Nat} (nodup : titles.Nodup) (j : Nat) (p : Nat → Prop)
    [DecidablePred p] (repairs : Nat → List Repair) :
    (titles.flatMap fun i => if i = j ∧ p i then repairs i else []) =
      if j ∈ titles ∧ p j then repairs j else [] := by
  induction titles with
  | nil => simp
  | cons i rest ih =>
    -- A title that is met does not come again.
    obtain ⟨fresh, distinct⟩ := List.nodup_cons.mp nodup
    rw [List.flatMap_cons, ih distinct]
    by_cases same : i = j
    · subst same
      simp [fresh]
    · have other : j ≠ i := fun equal => same equal.symm
      simp [same, other]

variable (path root : String)

theorem findings_ofStream (s : TokenStream) :
    findings c (.ofStream path s root) =
      (s.definitions ++ s.nodes).flatMap (blockFindings c s) := rfl

/-- At a token that is a regular expression among the titles of a node the findings ask for the
repairs its text wants, once each, and elsewhere for none. -/
theorem repairs_findings (s : TokenStream) (j : Nat) :
    (findings c (.ofStream path s root)).filterMap (Finding.repairAt j) =
      if j ∈ s.nodeTitles ∧ s.isKind j .regex = true then
        NodePattern.wanted c.disallowedDomains (s.text j)
      else [] := by
  have defined : (s.definitions.flatMap fun b => b.titleTokens s) = [] :=
    List.flatMap_eq_nil_iff.mpr fun b member => titleTokens_of_mem_definitions member
  have titles : ((s.definitions ++ s.nodes).flatMap fun b => b.titleTokens s) = s.nodeTitles := by
    rw [List.flatMap_append, defined, List.nil_append]
    rfl
  -- No token is a title twice, so nothing is asked for twice.
  rw [← flatMap_ite_eq (nodeTitles_nodup s) j (fun i => s.isKind i .regex = true)
    fun i => NodePattern.wanted c.disallowedDomains (s.text i), ← titles, List.flatMap_assoc,
    findings_ofStream, List.filterMap_flatMap]
  congr 1
  funext b
  exact repairs_blockFindings c b j

theorem mem_findings {s : TokenStream} {f : Finding}
    (member : f ∈ findings c (.ofStream path s root)) :
    f.Ordinary s ∨ ∃ i ∈ s.nodeTitles, s.isKind i .regex = true ∧
      ∃ problem, f ∈ problemFindings c i (s.text i) problem := by
  rw [findings_ofStream] at member
  obtain ⟨b, block, found⟩ := List.mem_flatMap.mp member
  rcases mem_blockFindings c found with ordinary | ⟨i, title, about⟩
  · exact Or.inl ordinary
  · rcases List.mem_append.mp block with defined | node
    · rw [titleTokens_of_mem_definitions defined] at title
      cases title
    · exact Or.inr ⟨i, List.mem_flatMap.mpr ⟨b, node, title⟩, about⟩

/-- A problem is reported at a token exactly when the token is a regular expression among the titles
of a node and has the problem. -/
theorem exists_complaint_iff (s : TokenStream) (problem : Repair) (i : Nat) :
    (∃ f ∈ findings c (.ofStream path s root),
        f.site = .token i ∧ problem.complaint.toList <+: f.message.toList) ↔
      i ∈ s.nodeTitles ∧ s.isKind i .regex = true ∧
        NodePattern.Suffers c.disallowedDomains (s.text i) problem := by
  constructor
  · rintro ⟨f, member, site, complaint⟩
    rcases mem_findings c path root member with ordinary | ⟨title, listed, regex, other, about⟩
    · -- Every complaint begins like a finding about a pattern, and an ordinary one does not.
      have opening : patternOpening.toList <+: problem.complaint.toList := by
        cases problem <;> decide
      exact absurd (opening.trans complaint) ordinary.wording
    · obtain ⟨place, worded, _⟩ := mem_problemFindings c about
      have same : title = i := Site.token.inj (place.symm.trans site)
      subst same
      have named := Repair.complaint_inj complaint worded
      subst named
      exact ⟨listed, regex, (problemFindings_ne_nil_iff c).mp (List.ne_nil_of_mem about)⟩
  · rintro ⟨listed, regex, suffers⟩
    obtain ⟨b, node, title⟩ := List.mem_flatMap.mp listed
    obtain ⟨f, about⟩ := List.exists_mem_of_ne_nil _
      ((problemFindings_ne_nil_iff (i := i) c).mpr suffers)
    obtain ⟨place, worded, _⟩ := mem_problemFindings c about
    have found := problemFindings_subset c title regex problem about
    exact ⟨f, List.mem_flatMap.mpr ⟨b, List.mem_append_right _ node, found⟩, place, worded⟩

end Layering

end ManifestLint
