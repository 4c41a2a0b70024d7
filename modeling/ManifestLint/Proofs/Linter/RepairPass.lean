import ManifestLint.Linter.Check
import ManifestLint.Proofs.Layering.Pattern

/-!
# A repair pass of the layering rule

What the layering rule reports as repairable stays repairable while the stream changes under it,
because repairs change texts and never kinds. So a pass never fails, marks exactly the violations
with a repair, and what it does to a token is what the repairs reported for that token do to its
text, in their order.
-/
namespace ManifestLint

/-! ### Streams that differ in texts -/

/-- A stream whose tokens are those of another one, their texts rewritten position by position. -/
def TokenStream.Rewrites (s t : TokenStream) (rewrite : Nat → String → String) : Prop :=
  ∀ i, t.token? i = (s.token? i).map fun token => { token with text := rewrite i token.text }

namespace TokenStream

variable {s t u : TokenStream} {first second : Nat → String → String}

theorem Rewrites.refl (s : TokenStream) : s.Rewrites s fun _ text => text := by
  intro i
  rw [Option.map_id']

theorem Rewrites.trans (one : s.Rewrites t first) (two : t.Rewrites u second) :
    s.Rewrites u fun i text => second i (first i text) := by
  intro i
  rw [two i, one i, Option.map_map]
  rfl

theorem Rewrites.kinds (rewritten : s.Rewrites t first) : t.kinds = s.kinds := by
  apply List.ext_getElem?
  intro i
  rw [← kind?_eq, ← kind?_eq, kind?, kind?, rewritten i, Option.map_map]
  rfl

theorem Rewrites.text (rewritten : s.Rewrites t first) {i : Nat} (inside : i < s.size) :
    t.text i = first i (s.text i) := by
  have found : s.token? i = some s.tokens[i] := Array.getElem?_eq_getElem inside
  rw [TokenStream.text, TokenStream.text, rewritten i, found]
  rfl

theorem rewrites_of_edit? {edit : Edit} (edited : s.edit? edit = some t) :
    s.Rewrites t fun i text => if i = edit.token then edit.newText else text := by
  intro i
  rw [token?_of_edit? edited]
  congr 1
  funext token
  by_cases same : i = edit.token <;> simp [same]

/-- A node with a pattern as its title and nothing in its body. -/
def nodeOf (pattern : String) : TokenStream :=
  .ofList [.new .nodeKw "node" 1 1, .new .regex pattern 1 6, .new .lbrace "\x7b" 2 1,
    .new .rbrace "\x7d" 3 1]

end TokenStream

/-! ### Violations -/

namespace Violation

/-- A violation as a successful pass returns it. -/
def marked (v : Violation) : Violation := if v.isFixable then { v with fixed := true } else v

/-- A violation that is either only reported or names a regular expression and its repair. -/
def Resolvable (s : TokenStream) (v : Violation) : Prop :=
  v.fixTag = none ∨
    ∃ i repair, v.token = some i ∧ v.fixTag = some (Repair.tag repair) ∧ s.kind? i = some .regex

/-- The repair that a violation asks for at a token. -/
def repairAt (j : Nat) (v : Violation) : Option Repair :=
  if v.token = some j then v.fixTag.bind Repair.ofTag? else none

theorem Resolvable.of_kinds {s t : TokenStream} {v : Violation} (same : t.kinds = s.kinds)
    (resolvable : v.Resolvable s) : v.Resolvable t := by
  rcases resolvable with plain | ⟨i, repair, place, tag, regex⟩
  · exact Or.inl plain
  · right
    refine ⟨i, repair, place, tag, ?_⟩
    rwa [TokenStream.kind?_eq, same, ← TokenStream.kind?_eq]

theorem fixTag_marked (v : Violation) : v.marked.fixTag = v.fixTag := by
  rw [marked]
  split <;> rfl

theorem token_marked (v : Violation) : v.marked.token = v.token := by
  rw [marked]
  split <;> rfl

theorem message_marked (v : Violation) : v.marked.message = v.message := by
  rw [marked]
  split <;> rfl

theorem fixed_marked {v : Violation} (fresh : v.fixed = false) : v.marked.fixed = v.isFixable := by
  rw [marked]
  split
  next fixable => rw [fixable]
  next plain => rw [fresh, Bool.eq_false_iff.mpr plain]

theorem countP_isFixable_marked (violations : List Violation) :
    (violations.map marked).countP isFixable = violations.countP isFixable := by
  rw [List.countP_map]
  congr 1
  funext v
  rw [Function.comp_apply, isFixable, isFixable, fixTag_marked]

theorem countP_fixed_marked {violations : List Violation}
    (fresh : ∀ v ∈ violations, v.fixed = false) :
    (violations.map marked).countP fixed = violations.countP isFixable := by
  rw [List.countP_map]
  apply List.countP_congr
  intro v member
  rw [Function.comp_apply, fixed_marked (fresh v member)]

end Violation

/-! ### One repair -/

namespace Layering

variable {s : TokenStream} {v : Violation}

/-- A repair is granted for the token that its violation names, and the edit applies. -/
theorem fix_of_regex (domains : List String) {i : Nat} {repair : Repair}
    (place : v.token = some i) (tag : v.fixTag = some repair.tag)
    (regex : s.kind? i = some .regex) :
    ∃ t, fix domains s v = .ok ⟨i, repair.apply domains (s.text i)⟩ ∧
      s.edit? ⟨i, repair.apply domains (s.text i)⟩ = some t := by
  obtain ⟨token, here, kind⟩ := Option.map_eq_some_iff.mp regex
  have inside := TokenStream.lt_size_of_kind? regex
  have text : s.text i = token.text := by
    rw [TokenStream.text, here]
    rfl
  obtain ⟨t, edited⟩ := Option.isSome_iff_exists.mp
    ((s.edit?_isSome_iff ⟨i, repair.apply domains (s.text i)⟩).mpr inside)
  refine ⟨t, ?_, edited⟩
  rw [fix, tag]
  simp only [Repair.ofTag?_tag, place, here, kind, if_true, text]

end Layering

namespace Linter

variable {s : TokenStream}

/-! ### The repairs of one rule -/

/-- A pass over violations that can be resolved resolves them all. -/
theorem repair_layering (c : Conventions) {violations : List Violation}
    (resolvable : ∀ v ∈ violations, v.Resolvable s) :
    ∃ t, repair (Layering.rule c) s violations =
        ⟨t, .ok (violations.map Violation.marked, violations.countP Violation.isFixable)⟩ ∧
      s.Rewrites t fun j text => NodePattern.mend c.disallowedDomains
        (violations.filterMap (Violation.repairAt j)) text := by
  induction violations generalizing s with
  | nil => exact ⟨s, rfl, TokenStream.Rewrites.refl s⟩
  | cons v rest ih =>
    rw [repair]
    rcases resolvable v List.mem_cons_self with plain | ⟨i, fit, place, tag, regex⟩
    · -- Nothing is asked for, and the pass goes on with the same stream.
      have idle : v.isFixable = false := by rw [Violation.isFixable, plain]; rfl
      obtain ⟨t, passed, rewritten⟩ := ih fun w member =>
        resolvable w (List.mem_cons_of_mem v member)
      refine ⟨t, ?_, ?_⟩
      · simp [idle, passed, Pass.prepend, Violation.marked]
      · intro j
        simpa [List.filterMap_cons, Violation.repairAt, plain] using rewritten j
    · have fixable : v.isFixable = true := by rw [Violation.isFixable, tag]; rfl
      obtain ⟨next, granted, edited⟩ := Layering.fix_of_regex c.disallowedDomains place tag regex
      -- The rest runs on the edited stream, where the same violations can be resolved.
      have step := TokenStream.rewrites_of_edit? edited
      obtain ⟨t, passed, rewritten⟩ := ih (s := next) fun w member =>
        (resolvable w (List.mem_cons_of_mem v member)).of_kinds (TokenStream.kinds_of_edit? edited)
      have fixEq : (Layering.rule c).fix s v = .ok ⟨i, fit.apply c.disallowedDomains (s.text i)⟩ :=
        granted
      refine ⟨t, ?_, ?_⟩
      · simp [fixable, fixEq, edited, passed, Pass.prepend, Violation.marked, Nat.add_comm]
      · have both := step.trans rewritten
        intro j
        rw [both j]
        cases here : s.token? j with
        | none => rfl
        | some token =>
          -- At the edited token this repair comes before those of the rest.
          by_cases same : j = i
          · subst same
            have text : s.text j = token.text := by
              rw [TokenStream.text, here]
              rfl
            simp [Violation.repairAt, place, tag, NodePattern.mend, text]
          · have other : i ≠ j := fun equal => same equal.symm
            simp [Violation.repairAt, place, same, other]

/-! ### The repairs of all rules -/

/-- A report of the layering rule on a stream whose violations can all be resolved. -/
structure ResolvableReport (s : TokenStream) (report : Rule × List Violation) : Prop where
  layering : ∃ c, report.1 = Layering.rule c
  resolvable : ∀ v ∈ report.2, v.Resolvable s

theorem ResolvableReport.of_kinds {t : TokenStream} {report : Rule × List Violation}
    (same : t.kinds = s.kinds) (report_ok : ResolvableReport s report) :
    ResolvableReport t report where
  layering := report_ok.layering
  resolvable := fun v reported => (report_ok.resolvable v reported).of_kinds same

theorem repairAll_layering {reports : List (Rule × List Violation)}
    (resolvable : ∀ report ∈ reports, ResolvableReport s report) :
    ∃ t, repairAll s reports =
        ⟨t, .ok ((reports.flatMap fun report => report.2).map Violation.marked,
          (reports.flatMap fun report => report.2).countP Violation.isFixable)⟩ ∧
      t.kinds = s.kinds := by
  induction reports generalizing s with
  | nil => exact ⟨s, rfl, rfl⟩
  | cons report rest ih =>
    obtain ⟨rule, violations⟩ := report
    obtain ⟨⟨c, equal⟩, here⟩ := resolvable (rule, violations) List.mem_cons_self
    dsimp only at equal
    subst equal
    obtain ⟨next, passed, rewritten⟩ := repair_layering c here
    obtain ⟨t, remaining, kinds⟩ := ih (s := next) fun report member =>
      (resolvable report (List.mem_cons_of_mem _ member)).of_kinds rewritten.kinds
    refine ⟨t, ?_, kinds.trans rewritten.kinds⟩
    simp [repairAll, passed, remaining, Pass.prepend]

end Linter

/-! ### What the layering rule reports -/

namespace Layering

/-- The token of a place, if it has one. -/
def Site.token? : Site → Option Nat
  | .token i => some i
  | .start => none

theorem Site.token?_eq_some_iff {site : Site} {i : Nat} :
    site.token? = some i ↔ site = .token i := by
  cases site <;> simp [Site.token?]

theorem token_violation (ctx : FileContext) (rule : RuleInfo) (f : Finding) :
    (f.violation ctx rule).token = f.site.token? := by
  rw [Finding.violation]
  cases f.site <;> rfl

theorem fixTag_violation (ctx : FileContext) (rule : RuleInfo) (f : Finding) :
    (f.violation ctx rule).fixTag = f.repair.map Repair.tag := rfl

theorem fixed_violation (ctx : FileContext) (rule : RuleInfo) (f : Finding) :
    (f.violation ctx rule).fixed = false := by
  rw [Finding.violation]
  cases f.site <;> rfl

theorem message_violation (ctx : FileContext) (rule : RuleInfo) (f : Finding) :
    (f.violation ctx rule).message = messageStart ++ f.message := by
  rw [Finding.violation]
  cases f.site <;> rfl

theorem resolvable_violation (c : Conventions) (path root : String) {s : TokenStream} {f : Finding}
    (member : f ∈ findings c (.ofStream path s root)) (ctx : FileContext) (rule : RuleInfo) :
    (f.violation ctx rule).Resolvable s := by
  rcases mem_findings c path root member with ordinary | ⟨i, _, regex, problem, about⟩
  · left
    rw [fixTag_violation, ordinary.repair]
    rfl
  · obtain ⟨site, _, none | some⟩ := mem_problemFindings c about
    · left
      rw [fixTag_violation, none]
      rfl
    · right
      refine ⟨i, problem, ?_, ?_, beq_iff_eq.mp regex⟩
      · rw [token_violation, site]
        rfl
      · rw [fixTag_violation, some]
        rfl

end Layering

namespace Linter

/-- A violation with the severity that settings give to its rule. -/
def grade (settings : Settings) (rule : String) (v : Violation) : Violation :=
  { v with severity := (settings.severity? rule).getD v.severity }

theorem fixed_grade (settings : Settings) (ctx : FileContext) (f : Layering.Finding) :
    (grade settings Layering.info.name (f.violation ctx Layering.info)).fixed = false :=
  Layering.fixed_violation ctx Layering.info f

theorem reportOf_layering (settings : Settings) (ctx : FileContext) (c : Conventions) :
    reportOf settings ctx (Layering.rule c) = (Layering.findings c ctx).map fun f =>
      grade settings Layering.info.name (f.violation ctx Layering.info) := by
  unfold reportOf grade
  cases severity : settings.severity? Layering.info.name with
  | none =>
    rw [show (Layering.rule c).name = Layering.info.name from rfl, severity]
    rfl
  | some graded =>
    rw [show (Layering.rule c).name = Layering.info.name from rfl, severity]
    exact List.map_map

/-- The violations that are reported are those of findings, whatever their severity. -/
theorem mem_reports {linter : Linter}
    (layering : ∀ rule ∈ linter.rules, ∃ c, rule = Layering.rule c) {ctx : FileContext}
    {report : Rule × List Violation} (member : report ∈ linter.reports ctx) :
    ∃ c, report.1 = Layering.rule c ∧ ∀ v ∈ report.2, ∃ f ∈ Layering.findings c ctx,
      v = grade linter.settings Layering.info.name (f.violation ctx Layering.info) := by
  obtain ⟨rule, enabled, rfl⟩ := List.mem_map.mp member
  obtain ⟨c, rfl⟩ := layering rule (List.mem_filter.mp enabled).1
  refine ⟨c, rfl, fun v reported => ?_⟩
  rw [reportOf_layering] at reported
  obtain ⟨f, finding, rfl⟩ := List.mem_map.mp reported
  exact ⟨f, finding, rfl⟩

theorem fixed_of_mem_reports {linter : Linter}
    (layering : ∀ rule ∈ linter.rules, ∃ c, rule = Layering.rule c) {ctx : FileContext}
    {report : Rule × List Violation} (member : report ∈ linter.reports ctx) {v : Violation}
    (reported : v ∈ report.2) : v.fixed = false := by
  obtain ⟨c, _, findings⟩ := mem_reports layering member
  obtain ⟨f, _, rfl⟩ := findings v reported
  exact fixed_grade linter.settings ctx f

theorem resolvable_reports {linter : Linter}
    (layering : ∀ rule ∈ linter.rules, ∃ c, rule = Layering.rule c) (path : String)
    (s : TokenStream) :
    ∀ report ∈ linter.reports (.ofStream path s linter.root), ResolvableReport s report := by
  intro report member
  obtain ⟨c, layer, findings⟩ := mem_reports layering member
  refine ⟨⟨c, layer⟩, fun v reported => ?_⟩
  obtain ⟨f, found, rfl⟩ := findings v reported
  -- The severity is no part of what makes a violation resolvable.
  exact Layering.resolvable_violation c path linter.root found _ Layering.info

/-- Where only the layering rule runs, every violation that carries a repair gets it. When its turn
comes, it names a regular expression, as it did when it was reported, its repair is granted as an
edit of that token, and the edit applies. So the pass succeeds, the edits counted are the violations
with a repair, and these are the ones marked. -/
theorem checkStream_repairs_every_tagged (linter : Linter) (fix : linter.fix = true)
    (layering : ∀ rule ∈ linter.rules, ∃ c, rule = Layering.rule c) (path : String)
    (s : TokenStream) :
    (∀ before rule seen v unseen after,
      linter.reports (.ofStream path s linter.root) =
          before ++ (rule, seen ++ v :: unseen) :: after →
        v.fixTag ≠ none →
          ∃ i edit later, v.token = some i ∧ s.kind? i = some .regex ∧
            (repairAll s (before ++ [(rule, seen)])).stream.kind? i = some .regex ∧
            rule.fix (repairAll s (before ++ [(rule, seen)])).stream v = .ok edit ∧
            edit.token = i ∧
            (repairAll s (before ++ [(rule, seen)])).stream.edit? edit = some later) ∧
      ∃ violations count, (linter.checkStream path s).result = .ok (violations, count) ∧
        violations = ((linter.reports (.ofStream path s linter.root)).flatMap
          fun report => report.2).map Violation.marked ∧
        count = violations.countP Violation.isFixable ∧
        count = violations.countP Violation.fixed ∧
        ∀ v ∈ violations, v.fixTag = none → v.fixed = false := by
  have resolvable := resolvable_reports layering path s
  constructor
  · intro before rule seen v unseen after cut tagged
    rw [cut] at resolvable
    obtain ⟨⟨c, layer⟩, here⟩ := resolvable (rule, seen ++ v :: unseen) (by simp)
    dsimp only at layer here
    subst layer
    obtain ⟨i, repair, place, tag, regex⟩ := (here v (by simp)).resolve_left tagged
    -- What stands before `v` is a report of the same kind, so it changes no kind.
    have earlier : ∀ report ∈ before ++ [(Layering.rule c, seen)], ResolvableReport s report := by
      intro report member
      rcases List.mem_append.mp member with whole | last
      · exact resolvable report (List.mem_append_left _ whole)
      · rw [List.mem_singleton.mp last]
        exact ⟨⟨c, rfl⟩, fun w reported => here w (List.mem_append_left _ reported)⟩
    obtain ⟨now, passed, kinds⟩ := repairAll_layering earlier
    have still : now.kind? i = some .regex := by
      rwa [TokenStream.kind?_eq, kinds, ← TokenStream.kind?_eq]
    obtain ⟨later, granted, edited⟩ := Layering.fix_of_regex c.disallowedDomains place tag still
    rw [passed]
    exact ⟨i, _, later, place, regex, still, granted, rfl, edited⟩
  · obtain ⟨t, passed, _⟩ := repairAll_layering resolvable
    have checked : linter.checkStream path s =
        repairAll s (linter.reports (.ofStream path s linter.root)) := by
      rw [checkStream, if_pos fix]
    have fresh : ∀ v ∈ (linter.reports (.ofStream path s linter.root)).flatMap
        (fun report => report.2), v.fixed = false := by
      intro v member
      obtain ⟨report, listed, reported⟩ := List.mem_flatMap.mp member
      exact fixed_of_mem_reports layering listed reported
    refine ⟨_, _, congrArg Pass.result (checked.trans passed), rfl,
      (Violation.countP_isFixable_marked _).symm, (Violation.countP_fixed_marked fresh).symm, ?_⟩
    intro v member plain
    obtain ⟨w, reported, rfl⟩ := List.mem_map.mp member
    rw [Violation.fixTag_marked] at plain
    rw [Violation.fixed_marked (fresh w reported), Violation.isFixable, plain]
    rfl

/-- The layering rule under the usual conventions, with repairs. -/
def repairing : Linter where
  root := "."
  rules := [Layering.rule {}]
  exclude := []
  settings := {}
  fix := true
  strict := false

/-- A pattern with all three problems: each is repaired, the last one on the stream that the two
before it have left. -/
theorem checkStream_repairs_three_tagged :
    (∃ seen v i edit later,
      repairing.reports (.ofStream "site.pp" (.nodeOf "db1\\.wmnet$") ".") =
          [(Layering.rule {}, seen ++ [v])] ∧
        seen.length = 2 ∧ v.token = some i ∧
        (Layering.rule {}).fix
          (repairAll (.nodeOf "db1\\.wmnet$") [(Layering.rule {}, seen)]).stream v = .ok edit ∧
        edit.token = i ∧
        (repairAll (.nodeOf "db1\\.wmnet$") [(Layering.rule {}, seen)]).stream.edit? edit =
          some later) ∧
      ∃ violations,
        (repairing.checkStream "site.pp" (.nodeOf "db1\\.wmnet$")).result = .ok (violations, 3) ∧
          violations.countP Violation.fixed = 3 := by
  obtain ⟨granted, violations, count, passed, _, _, fixed, _⟩ :=
    checkStream_repairs_every_tagged repairing rfl
      (fun rule member => ⟨{}, List.mem_singleton.mp member⟩) "site.pp" (.nodeOf "db1\\.wmnet$")
  constructor
  · have three : (reportOf {} (.ofStream "site.pp" (.nodeOf "db1\\.wmnet$") ".")
        (Layering.rule {})).length = 3 := by decide +kernel
    have tagged : ∀ v ∈ reportOf {} (.ofStream "site.pp" (.nodeOf "db1\\.wmnet$") ".")
        (Layering.rule {}), v.fixTag ≠ none := by decide +kernel
    obtain ⟨u, v, w, listed⟩ := List.length_eq_three.mp three
    have cut : repairing.reports (.ofStream "site.pp" (.nodeOf "db1\\.wmnet$") ".") =
        [] ++ (Layering.rule {}, [u, v] ++ w :: []) :: [] :=
      congrArg (fun report => [(Layering.rule {}, report)]) listed
    rw [listed] at tagged
    obtain ⟨i, edit, later, place, _, _, fit, same, edited⟩ :=
      granted [] (Layering.rule {}) [u, v] w [] [] cut (tagged w (by simp))
    exact ⟨[u, v], w, i, edit, later, cut, rfl, place, fit, same, edited⟩
  · have three : (repairing.checkStream "site.pp" (.nodeOf "db1\\.wmnet$")).result.toOption.map
        Prod.snd = some 3 := by decide +kernel
    rw [passed] at three
    obtain rfl := Option.some.inj three
    exact ⟨violations, passed, fixed.symm⟩

end Linter

end ManifestLint
