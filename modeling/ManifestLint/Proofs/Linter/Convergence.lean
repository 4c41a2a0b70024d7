import ManifestLint.Proofs.Linter.RepairPass

/-!
# What a repair pass leaves

A repair pass of the layering rule leaves a stream in which nothing is left to repair, so a second
pass changes nothing. A violation that is marked as repaired is gone for the two kinds of anchor.
For a domain this holds exactly when everything that is found of a domain reaches beyond what
stripping keeps: the search looks everywhere in a pattern, the repair at its end only.
-/
namespace ManifestLint

/-- A linter that repairs, and that runs the layering rule and no other. -/
structure Linter.RepairsBy (linter : Linter) (c : Conventions) : Prop where
  fix : linter.fix = true
  only : (linter.rules.filter fun rule => linter.settings.isEnabled rule.name) = [Layering.rule c]

/-- Whether a violation is about a problem of the pattern at a token, with a repair or without. -/
def Violation.Reports (v : Violation) (problem : Repair) (i : Nat) : Prop :=
  v.token = some i ∧ (Layering.messageStart ++ problem.complaint).toList <+: v.message.toList

instance (v : Violation) (problem : Repair) (i : Nat) : Decidable (v.Reports problem i) :=
  inferInstanceAs (Decidable (_ ∧ _))

namespace Linter

variable {linter : Linter} {c : Conventions} {s : TokenStream}

/-! ### One pass -/

theorem repairAt_violation (settings : Settings) (ctx : FileContext) (f : Layering.Finding)
    (j : Nat) :
    (grade settings Layering.info.name (f.violation ctx Layering.info)).repairAt j =
      f.repairAt j := by
  have place : (grade settings Layering.info.name (f.violation ctx Layering.info)).token =
      f.site.token? := Layering.token_violation ctx Layering.info f
  have tag : (grade settings Layering.info.name (f.violation ctx Layering.info)).fixTag =
      f.repair.map Repair.tag := Layering.fixTag_violation ctx Layering.info f
  rw [Violation.repairAt, place, tag, Layering.Finding.repairAt]
  cases f.site with
  | start => rfl
  | token i =>
    cases f.repair with
    | none => simp
    | some repair => simp [Layering.Site.token?]

theorem repairs_reportOf (settings : Settings) (path root : String) (j : Nat) :
    (reportOf settings (.ofStream path s root) (Layering.rule c)).filterMap
        (Violation.repairAt j) =
      if j ∈ s.nodeTitles ∧ s.isKind j .regex = true then
        NodePattern.wanted c.disallowedDomains (s.text j)
      else [] := by
  rw [reportOf_layering, List.filterMap_map, ← Layering.repairs_findings c path root s j]
  congr 1
  funext f
  exact repairAt_violation settings _ f j

theorem reports_of_repairsBy (repairs : linter.RepairsBy c) (ctx : FileContext) :
    linter.reports ctx =
      [(Layering.rule c, reportOf linter.settings ctx (Layering.rule c))] := by
  rw [reports, repairs.only]
  rfl

/-- A pass marks what has a repair, mends the patterns of nodes and changes nothing else. -/
theorem checkStream_mends (repairs : linter.RepairsBy c) (path : String) (s : TokenStream) :
    ∃ t, linter.checkStream path s = ⟨t, .ok
        ((reportOf linter.settings (.ofStream path s linter.root) (Layering.rule c)).map
            Violation.marked,
          (reportOf linter.settings (.ofStream path s linter.root) (Layering.rule c)).countP
            Violation.isFixable)⟩ ∧
      s.Rewrites t fun i text =>
        if i ∈ s.nodeTitles ∧ s.isKind i .regex = true then
          NodePattern.mend c.disallowedDomains (NodePattern.wanted c.disallowedDomains text) text
        else text := by
  have resolvable : ∀ v ∈ reportOf linter.settings (.ofStream path s linter.root)
      (Layering.rule c), v.Resolvable s := by
    intro v reported
    rw [reportOf_layering] at reported
    obtain ⟨f, found, rfl⟩ := List.mem_map.mp reported
    exact Layering.resolvable_violation c path linter.root found _ Layering.info
  obtain ⟨t, passed, rewritten⟩ := repair_layering c resolvable
  refine ⟨t, ?_, fun i => ?_⟩
  · simp [checkStream, repairs.fix, reports_of_repairsBy repairs, repairAll, passed, Pass.prepend]
  · rw [rewritten i]
    cases here : s.token? i with
    | none => rfl
    | some token =>
      -- The repairs of a token were chosen on its text in the stream.
      have text : s.text i = token.text := by
        rw [TokenStream.text, here]
        rfl
      simp only [Option.map_some, repairs_reportOf, text]
      split <;> rfl

theorem checkStream_of_repairsBy (repairs : linter.RepairsBy c) (path : String)
    (s : TokenStream) :
    ∃ t, linter.checkStream path s = ⟨t, .ok
        ((reportOf linter.settings (.ofStream path s linter.root) (Layering.rule c)).map
            Violation.marked,
          (reportOf linter.settings (.ofStream path s linter.root) (Layering.rule c)).countP
            Violation.isFixable)⟩ ∧
      t.kinds = s.kinds ∧
      ∀ i ∈ s.nodeTitles, s.isKind i .regex = true → t.text i =
        NodePattern.mend c.disallowedDomains
          (NodePattern.wanted c.disallowedDomains (s.text i)) (s.text i) := by
  obtain ⟨t, passed, rewritten⟩ := checkStream_mends repairs path s
  refine ⟨t, passed, rewritten.kinds, fun i title regex => ?_⟩
  rw [rewritten.text (TokenStream.lt_size_of_isKind regex), if_pos ⟨title, regex⟩]

theorem nodeTitles_congr {t : TokenStream} (same : t.kinds = s.kinds) :
    t.nodeTitles = s.nodeTitles := by
  unfold TokenStream.nodeTitles Block.titleTokens
  rw [TokenStream.nodes_congr same, TokenStream.size_congr same]

/-! ### A second pass -/

theorem repair_of_untagged (rule : Rule) {violations : List Violation}
    (untagged : ∀ v ∈ violations, v.fixTag = none) :
    repair rule s violations = ⟨s, .ok (violations, 0)⟩ := by
  induction violations with
  | nil => rfl
  | cons v rest ih =>
    have plain : v.isFixable = false := by
      rw [Violation.isFixable, untagged v List.mem_cons_self]
      rfl
    rw [repair, plain, ih fun w member => untagged w (List.mem_cons_of_mem v member)]
    rfl

/-- No finding asks for a repair where no pattern wants one. -/
theorem repair_eq_none_of_mended {path root : String}
    (mended : ∀ i ∈ s.nodeTitles, s.isKind i .regex = true →
      NodePattern.wanted c.disallowedDomains (s.text i) = [])
    {f : Layering.Finding} (member : f ∈ Layering.findings c (.ofStream path s root)) :
    f.repair = none := by
  rcases Layering.mem_findings c path root member with ordinary | ⟨i, title, regex, problem, about⟩
  · exact ordinary.repair
  · have site := (Layering.mem_problemFindings c about).1
    have asked := Layering.repairs_findings c path root s i
    rw [if_pos ⟨title, regex⟩, mended i title regex, List.filterMap_eq_nil_iff] at asked
    have none := asked f member
    rwa [Layering.Finding.repairAt, if_pos site] at none

/-- Repairing is complete after one pass: a second one reports nothing that could be repaired, makes
no edit and leaves the stream as it is. -/
theorem checkStream_converges (repairs : linter.RepairsBy c)
    (plain : NodePattern.PlainDomains c.disallowedDomains) (path again : String)
    (s : TokenStream) :
    ∃ t violations count remaining,
      linter.checkStream path s = ⟨t, .ok (violations, count)⟩ ∧
        linter.checkStream again t = ⟨t, .ok (remaining, 0)⟩ ∧
        ∀ v ∈ remaining, v.fixTag = none := by
  obtain ⟨t, passed, kinds, texts⟩ := checkStream_of_repairsBy repairs path s
  have mended : ∀ i ∈ t.nodeTitles, t.isKind i .regex = true →
      NodePattern.wanted c.disallowedDomains (t.text i) = [] := by
    intro i title regex
    rw [nodeTitles_congr kinds] at title
    rw [TokenStream.isKind_congr kinds] at regex
    rw [texts i title regex]
    exact NodePattern.wanted_mend_wanted plain (s.text i)
  -- No pattern of the repaired stream wants a repair, so no violation carries one.
  have untagged : ∀ v ∈ reportOf linter.settings (.ofStream again t linter.root)
      (Layering.rule c), v.fixTag = none := by
    intro v reported
    rw [reportOf_layering] at reported
    obtain ⟨f, found, rfl⟩ := List.mem_map.mp reported
    show f.repair.map Repair.tag = none
    rw [repair_eq_none_of_mended mended found]
    rfl
  refine ⟨t, _, _, _, passed, ?_, untagged⟩
  simp [checkStream, repairs.fix, reports_of_repairsBy repairs, repairAll,
    repair_of_untagged _ untagged, Pass.prepend]

theorem repairsBy_repairing : repairing.RepairsBy {} := ⟨rfl, rfl⟩

/-- Three repairs, and nothing to do for a second pass, although it still reports the domain in the
middle. -/
theorem checkStream_converges_of_three :
    ∃ t violations remaining,
      repairing.checkStream "site.pp" (.nodeOf "a\\.wmnet\\.b\\.wmnet$") =
          ⟨t, .ok (violations, 3)⟩ ∧
        t.text 1 = "^a\\.wmnet\\.b\\." ∧
        repairing.checkStream "site.pp" t = ⟨t, .ok (remaining, 0)⟩ ∧
        remaining.length = 1 ∧ ∀ v ∈ remaining, v.fixTag = none := by
  obtain ⟨t, violations, count, remaining, first, second, untagged⟩ :=
    checkStream_converges repairsBy_repairing (by decide) "site.pp" "site.pp"
      (.nodeOf "a\\.wmnet\\.b\\.wmnet$")
  have three : (repairing.checkStream "site.pp"
      (.nodeOf "a\\.wmnet\\.b\\.wmnet$")).result.toOption.map Prod.snd = some 3 := by decide +kernel
  have mended : (repairing.checkStream "site.pp"
      (.nodeOf "a\\.wmnet\\.b\\.wmnet$")).stream.text 1 = "^a\\.wmnet\\.b\\." := by decide +kernel
  have left : (repairing.checkStream "site.pp" (repairing.checkStream "site.pp"
      (.nodeOf "a\\.wmnet\\.b\\.wmnet$")).stream).result.toOption.map
        (fun outcome => outcome.1.length) = some 1 := by decide +kernel
  rw [first] at three mended left
  rw [second] at left
  obtain rfl := Option.some.inj three
  exact ⟨t, violations, remaining, first, mended, second, Option.some.inj left, untagged⟩

/-! ### What is marked as repaired -/

/-- A violation with a repair is about a pattern of a node that wants this repair. -/
theorem reported_of_tagged {path root : String} {f : Layering.Finding} {problem : Repair}
    (member : f ∈ Layering.findings c (.ofStream path s root)) (tag : f.repair = some problem) :
    ∃ i ∈ s.nodeTitles, s.isKind i .regex = true ∧ f.site = .token i ∧
      problem.complaint.toList <+: f.message.toList ∧
      problem ∈ NodePattern.wanted c.disallowedDomains (s.text i) := by
  rcases Layering.mem_findings c path root member with ordinary | ⟨i, title, regex, other, about⟩
  · rw [ordinary.repair] at tag
    cases tag
  · obtain ⟨site, worded, none | some⟩ := Layering.mem_problemFindings c about
    · rw [none] at tag
      cases tag
    · obtain rfl := Option.some.inj (some.symm.trans tag)
      refine ⟨i, title, regex, site, worded, ?_⟩
      have asked := Layering.repairs_findings c path root s i
      rw [if_pos ⟨title, regex⟩] at asked
      rw [← asked]
      refine List.mem_filterMap.mpr ⟨f, member, ?_⟩
      rw [Layering.Finding.repairAt, if_pos site, some]

theorem reports_violation_iff (ctx : FileContext) (f : Layering.Finding) (problem : Repair)
    (i : Nat) :
    (f.violation ctx Layering.info).Reports problem i ↔
      f.site = .token i ∧ problem.complaint.toList <+: f.message.toList := by
  rw [Violation.Reports, Layering.token_violation, Layering.message_violation, String.toList_append,
    String.toList_append, List.prefix_append_right_inj]
  cases f.site <;> simp [Layering.Site.token?]

theorem reports_marked_iff (settings : Settings) (ctx : FileContext) (f : Layering.Finding)
    (problem : Repair) (i : Nat) :
    (grade settings Layering.info.name (f.violation ctx Layering.info)).marked.Reports problem i ↔
      f.site = .token i ∧ problem.complaint.toList <+: f.message.toList := by
  rw [← reports_violation_iff ctx f problem i, Violation.Reports, Violation.token_marked,
    Violation.message_marked]
  rfl

/-- A check reports a problem at a token exactly when the token is a pattern of a node that has the
problem. -/
theorem exists_reports_iff (path root : String) (s : TokenStream) (problem : Repair) (i : Nat) :
    (∃ v ∈ Layering.check c (.ofStream path s root), v.Reports problem i) ↔
      i ∈ s.nodeTitles ∧ s.isKind i .regex = true ∧
        NodePattern.Suffers c.disallowedDomains (s.text i) problem := by
  rw [← Layering.exists_complaint_iff c path root s problem i, Layering.check]
  simp only [List.mem_map, exists_exists_and_eq_and, reports_violation_iff]

theorem suffers_mend_wanted_iff (plain : NodePattern.PlainDomains c.disallowedDomains)
    {text : String} {problem : Repair}
    (wanted : problem ∈ NodePattern.wanted c.disallowedDomains text) :
    NodePattern.Suffers c.disallowedDomains
        (NodePattern.mend c.disallowedDomains
          (NodePattern.wanted c.disallowedDomains text) text) problem ↔
      problem = .stripDomain ∧
        ¬ NodePattern.StripsEveryDomain c.disallowedDomains (NodePattern.split text.toList).2 := by
  -- A mended text is split into its slashes and the settled body again.
  have start := NodePattern.isStartAnchored_settle plain (NodePattern.split text.toList).2
  rw [NodePattern.mend_wanted plain]
  cases problem with
  | anchorStart => simp [NodePattern.Suffers, NodePattern.split_join start, start]
  | dropEndAnchor =>
    simp [NodePattern.Suffers, NodePattern.split_join start, NodePattern.isEndAnchored_settle plain]
  | stripDomain =>
    obtain ⟨found, changed⟩ := NodePattern.stripDomain_mem_wanted_iff.mp wanted
    simp [NodePattern.Suffers, NodePattern.split_join start,
      NodePattern.domainIn?_settle_eq_none_iff plain found changed]

/-- A violation that is marked as repaired is about one problem of one pattern, and a check of the
repaired stream no longer reports this problem there, unless it is a domain of which an occurrence
lies within what stripping keeps. -/
theorem fixed_problem_gone_iff (repairs : linter.RepairsBy c)
    (plain : NodePattern.PlainDomains c.disallowedDomains) (path again : String)
    (s : TokenStream) :
    ∃ t violations count, linter.checkStream path s = ⟨t, .ok (violations, count)⟩ ∧
      ∀ v ∈ violations, v.fixed = true →
        (∃ problem i, v.fixTag = some (Repair.tag problem) ∧ v.Reports problem i) ∧
          ∀ problem i, v.Reports problem i →
            ((∀ w ∈ Layering.check c (.ofStream again t linter.root), ¬ w.Reports problem i) ↔
              (problem = .stripDomain → NodePattern.StripsEveryDomain c.disallowedDomains
                (NodePattern.split (s.text i).toList).2)) := by
  obtain ⟨t, passed, kinds, texts⟩ := checkStream_of_repairsBy repairs path s
  refine ⟨t, _, _, passed, ?_⟩
  intro v member fixed
  obtain ⟨w, reported, rfl⟩ := List.mem_map.mp member
  rw [reportOf_layering] at reported
  obtain ⟨f, found, rfl⟩ := List.mem_map.mp reported
  -- Only a violation with a repair is marked, so the finding has one.
  rw [Violation.fixed_marked (fixed_grade _ _ f)] at fixed
  obtain ⟨tag, tagged⟩ := Option.isSome_iff_exists.mp fixed
  obtain ⟨problem, repair, rfl⟩ := Option.map_eq_some_iff.mp tagged
  obtain ⟨i, title, regex, site, worded, wanted⟩ := reported_of_tagged found repair
  constructor
  · refine ⟨problem, i, ?_, (reports_marked_iff _ _ f problem i).mpr ⟨site, worded⟩⟩
    rw [Violation.fixTag_marked]
    exact tagged
  · intro other j reports
    obtain ⟨place, complaint⟩ := (reports_marked_iff _ _ f other j).mp reports
    obtain rfl := Layering.Site.token.inj (site.symm.trans place)
    obtain rfl := Repair.complaint_inj worded complaint
    -- The token is still a pattern of a node, so all depends on its mended text.
    have gone := exists_reports_iff (c := c) again linter.root t problem i
    rw [nodeTitles_congr kinds, TokenStream.isKind_congr kinds, texts i title regex,
      suffers_mend_wanted_iff plain wanted] at gone
    simpa [title, regex] using not_congr gone

/-- Where the domain stands at the end only, all that is marked is gone. -/
theorem fixed_problems_gone_of_three :
    ∃ t violations, repairing.checkStream "site.pp" (.nodeOf "db1\\.wmnet$") =
        ⟨t, .ok (violations, 3)⟩ ∧
      violations.countP Violation.fixed = 3 ∧
      ∀ v ∈ violations, v.fixed = true → ∃ problem, v.Reports problem 1 ∧
        ∀ w ∈ Layering.check {} (.ofStream "site.pp" t "."), ¬ w.Reports problem 1 := by
  obtain ⟨t, violations, count, passed, gone⟩ :=
    fixed_problem_gone_iff repairsBy_repairing (by decide) "site.pp" "site.pp"
      (.nodeOf "db1\\.wmnet$")
  have outcome : (repairing.checkStream "site.pp" (.nodeOf "db1\\.wmnet$")).result.toOption.map
      (fun outcome => (outcome.2, outcome.1.countP Violation.fixed,
        outcome.1.all fun v => v.token == some 1)) = some (3, 3, true) := by decide +kernel
  rw [passed] at outcome
  simp only [Except.toOption, Option.map_some, Option.some.injEq, Prod.mk.injEq] at outcome
  obtain ⟨rfl, fixed, places⟩ := outcome
  refine ⟨t, violations, passed, fixed, fun v member marked => ?_⟩
  obtain ⟨⟨problem, i, _, reports⟩, gone_iff⟩ := gone v member marked
  have place : i = 1 := by
    have here := beq_iff_eq.mp (List.all_eq_true.mp places v member)
    exact Option.some.inj (reports.1.symm.trans here)
  subst place
  exact ⟨problem, reports, (gone_iff problem 1 reports).mpr fun _ => by decide +kernel⟩

/-- A domain in the middle outlasts the repair of the one at the end, whose violation is marked all
the same. -/
theorem exists_fixed_problem_not_gone :
    ∃ t violations, repairing.checkStream "site.pp" (.nodeOf "^a\\.wmnet\\.b\\.wmnet") =
        ⟨t, .ok (violations, 1)⟩ ∧
      ∃ v ∈ violations, v.fixed = true ∧ v.Reports .stripDomain 1 ∧
        ∃ w ∈ Layering.check {} (.ofStream "site.pp" t "."), w.Reports .stripDomain 1 := by
  obtain ⟨t, passed, _⟩ := checkStream_of_repairsBy repairsBy_repairing "site.pp"
    (.nodeOf "^a\\.wmnet\\.b\\.wmnet")
  have outcome : (repairing.checkStream "site.pp"
      (.nodeOf "^a\\.wmnet\\.b\\.wmnet")).result.toOption.any (fun outcome => outcome.2 == 1 &&
        outcome.1.any fun v => v.fixed && decide (v.Reports .stripDomain 1)) = true := by
    decide +kernel
  have again : ∃ w ∈ Layering.check {} (.ofStream "site.pp" (repairing.checkStream "site.pp"
      (.nodeOf "^a\\.wmnet\\.b\\.wmnet")).stream "."), w.Reports .stripDomain 1 := by
    decide +kernel
  rw [passed] at outcome again
  simp only [Except.toOption, Option.any_some, Bool.and_eq_true, beq_iff_eq, List.any_eq_true,
    decide_eq_true_eq] at outcome
  obtain ⟨one, v, member, fixed, reports⟩ := outcome
  rw [one] at passed
  exact ⟨t, _, passed, v, member, fixed, reports, again⟩

end Linter

end ManifestLint
