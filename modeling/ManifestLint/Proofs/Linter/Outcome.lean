import ManifestLint.Proofs.Linter.WriteBack

/-!
# How a pass ends

Nothing is assumed about the rules. A violation is either refused its repair, which ends the pass,
or passed on, as it was or marked. So a pass that succeeds returns what a check without repairs
reports, with a mark for every edit it made. A pass that is refused leaves the stream as the repairs
before the refusal have left it, which need not be the stream it was given.
-/
namespace ManifestLint

/-! ### Marks -/

/-- A violation without the mark of a repair. -/
def Violation.cleared (v : Violation) : Violation := { v with fixed := false }

/-- What a pass returns for the violations it was given, and how many edits it made: each violation
comes back as it was, or marked for one edit if it carries a repair. -/
inductive Settles : List Violation → List Violation → Nat → Prop
  | nil : Settles [] [] 0
  | kept {given returned : List Violation} {edits : Nat} (v : Violation)
      (rest : Settles given returned edits) : Settles (v :: given) (v :: returned) edits
  | repaired {given returned : List Violation} {edits : Nat} {v : Violation}
      (tagged : v.isFixable = true) (rest : Settles given returned edits) :
      Settles (v :: given) ({ v with fixed := true } :: returned) (edits + 1)

namespace Settles

variable {given returned others rest : List Violation} {edits more : Nat}

theorem append (settled : Settles given returned edits) (later : Settles others rest more) :
    Settles (given ++ others) (returned ++ rest) (edits + more) := by
  induction settled with
  | nil => simpa using later
  | kept v _ ih => exact .kept v ih
  | repaired tagged _ ih =>
    rw [Nat.add_right_comm]
    exact .repaired tagged ih

theorem map_location (settled : Settles given returned edits) :
    returned.map Violation.location = given.map Violation.location := by
  induction settled with
  | nil => rfl
  | kept v _ ih => rw [List.map_cons, List.map_cons, ih]
  | repaired _ _ ih => rw [List.map_cons, List.map_cons, ih]

section Fresh

variable (settled : Settles given returned edits) (fresh : ∀ v ∈ given, v.fixed = false)
include settled fresh

theorem map_cleared : returned.map Violation.cleared = given := by
  induction settled with
  | nil => rfl
  | kept v _ ih =>
    obtain ⟨unmarked, others⟩ := List.forall_mem_cons.mp fresh
    have same : v.cleared = v := by rw [Violation.cleared, ← unmarked]
    rw [List.map_cons, same, ih others]
  | @repaired _ _ _ v _ _ ih =>
    obtain ⟨unmarked, others⟩ := List.forall_mem_cons.mp fresh
    have same : Violation.cleared { v with fixed := true } = v := by
      rw [Violation.cleared, ← unmarked]
    rw [List.map_cons, same, ih others]

theorem edits_eq : edits = returned.countP Violation.fixed := by
  induction settled with
  | nil => rfl
  | kept v _ ih =>
    obtain ⟨unmarked, others⟩ := List.forall_mem_cons.mp fresh
    rw [List.countP_cons_of_neg (by simp [unmarked]), ih others]
  | repaired _ _ ih =>
    obtain ⟨_, others⟩ := List.forall_mem_cons.mp fresh
    rw [List.countP_cons_of_pos rfl, ih others]

theorem isFixable_of_fixed : ∀ v ∈ returned, v.fixed = true → v.isFixable = true := by
  induction settled with
  | nil => simp
  | kept v _ ih =>
    obtain ⟨unmarked, others⟩ := List.forall_mem_cons.mp fresh
    refine List.forall_mem_cons.mpr ⟨fun marked => ?_, ih others⟩
    rw [unmarked] at marked
    cases marked
  | repaired tagged _ ih =>
    obtain ⟨_, others⟩ := List.forall_mem_cons.mp fresh
    exact List.forall_mem_cons.mpr ⟨fun _ => tagged, ih others⟩

end Fresh

end Settles

/-! ### One violation -/

theorem Pass.exists_of_prepend {pass : Pass} {violations returned : List Violation}
    {edits count : Nat} (passed : (pass.prepend violations edits).result = .ok (returned, count)) :
    ∃ rest more, pass.result = .ok (rest, more) ∧ returned = violations ++ rest ∧
      count = edits + more := by
  cases result : pass.result with
  | error e => simp [prepend, result] at passed
  | ok outcome =>
    obtain ⟨rest, more⟩ := outcome
    simp only [prepend, result, Except.ok.injEq, Prod.mk.injEq] at passed
    exact ⟨rest, more, rfl, passed.1.symm, passed.2.symm⟩

theorem Pass.error_of_prepend {pass : Pass} {violations : List Violation} {edits : Nat}
    {e : FixError} (refused : (pass.prepend violations edits).result = .error e) :
    pass.result = .error e := by
  cases result : pass.result with
  | error other => simpa [prepend, result] using refused
  | ok outcome => simp [prepend, result] at refused

namespace Linter

variable {s : TokenStream} {e : FixError}

/-- All that can happen to a violation: its repair is refused, and nothing after it is looked at, or
it is settled and the pass goes on with the next stream. -/
theorem repair_cons_cases (rule : Rule) (s : TokenStream) (v : Violation) :
    (∃ e, v.isFixable = true ∧ rule.fix s v = .error e ∧
      ∀ rest, repair rule s (v :: rest) = ⟨s, .error e⟩) ∨
    ∃ next w edits, Settles [v] [w] edits ∧
      ∀ rest, repair rule s (v :: rest) = (repair rule next rest).prepend [w] edits := by
  by_cases tagged : v.isFixable = true
  · cases asked : rule.fix s v with
    | error e =>
      left
      exact ⟨e, tagged, rfl, fun rest => by simp [repair, tagged, asked]⟩
    | ok edit =>
      right
      cases edited : s.edit? edit with
      | none => exact ⟨s, v, 0, .kept v .nil, fun rest => by simp [repair, tagged, asked, edited]⟩
      | some next =>
        exact ⟨next, { v with fixed := true }, 1, .repaired tagged .nil,
          fun rest => by simp [repair, tagged, asked, edited]⟩
  · right
    exact ⟨s, v, 0, .kept v .nil, fun rest => by simp [repair, tagged]⟩

/-! ### A pass that succeeds -/

theorem settles_of_repair {rule : Rule} {violations returned : List Violation} {edits : Nat}
    (passed : (repair rule s violations).result = .ok (returned, edits)) :
    Settles violations returned edits := by
  induction violations generalizing s returned edits with
  | nil =>
    cases passed
    exact .nil
  | cons v rest ih =>
    rcases repair_cons_cases rule s v with ⟨e, _, _, refused⟩ | ⟨next, w, made, settled, goes⟩
    · rw [refused] at passed
      cases passed
    · rw [goes] at passed
      obtain ⟨others, more, later, rfl, rfl⟩ := Pass.exists_of_prepend passed
      exact settled.append (ih later)

theorem settles_of_repairAll {reports : List (Rule × List Violation)} {returned : List Violation}
    {edits : Nat} (passed : (repairAll s reports).result = .ok (returned, edits)) :
    Settles (reports.flatMap fun report => report.2) returned edits := by
  induction reports generalizing s returned edits with
  | nil =>
    cases passed
    exact .nil
  | cons report rest ih =>
    obtain ⟨rule, violations⟩ := report
    rw [repairAll] at passed
    cases result : (repair rule s violations).result with
    | error e => simp [result] at passed
    | ok outcome =>
      obtain ⟨done, made⟩ := outcome
      simp only [result] at passed
      obtain ⟨others, more, later, rfl, rfl⟩ := Pass.exists_of_prepend passed
      rw [List.flatMap_cons]
      exact (settles_of_repair result).append (ih later)

/-- Every reported violation beside the rule that reports it, in the order of the reports. -/
def attributed (linter : Linter) (ctx : FileContext) : List (Rule × Violation) :=
  (linter.reports ctx).flatMap fun report => report.2.map fun v => (report.1, v)

theorem map_snd_attributed (linter : Linter) (ctx : FileContext) :
    (linter.attributed ctx).map Prod.snd = (linter.reports ctx).flatMap fun report => report.2 := by
  rw [attributed, List.map_flatMap]
  refine List.flatMap_congr fun report _ => ?_
  rw [List.map_map]
  exact List.map_id' report.2

/-- Who reports is one of the rules, and enabled. -/
theorem enabled_of_mem_attributed {linter : Linter} {ctx : FileContext} {rule : Rule}
    {v : Violation} (member : (rule, v) ∈ linter.attributed ctx) :
    rule ∈ linter.rules ∧ linter.settings.isEnabled rule.name = true ∧
      v ∈ reportOf linter.settings ctx rule := by
  obtain ⟨report, listed, reported⟩ := List.mem_flatMap.mp member
  obtain ⟨other, enabled, rfl⟩ := List.mem_map.mp listed
  obtain ⟨w, found, equal⟩ := List.mem_map.mp reported
  cases equal
  obtain ⟨among, runs⟩ := List.mem_filter.mp enabled
  exact ⟨among, runs, found⟩

theorem fixed_of_mem_reportOf {settings : Settings} {ctx : FileContext} {rule : Rule}
    (fresh : ∀ v ∈ rule.check ctx, v.fixed = false) :
    ∀ v ∈ reportOf settings ctx rule, v.fixed = false := by
  intro v member
  rw [reportOf] at member
  split at member
  · exact fresh v member
  · obtain ⟨w, found, rfl⟩ := List.mem_map.mp member
    exact fresh w found

/-- Repairing does not influence diagnosis, whatever the rules are. Without repairs a check leaves
the stream alone and marks nothing. A check with repairs that succeeds returns the same violations
in the same order, but for the marks. It counts as many edits as it marks violations, and each of
these carries a repair and was reported at its place by a rule that is enabled. -/
theorem checkStream_diagnoses_alike (linter : Linter) (path : String) (s : TokenStream)
    (fresh : ∀ rule ∈ linter.rules, ∀ v ∈ rule.check (.ofStream path s linter.root),
      v.fixed = false) :
    ∃ reported : List Violation,
      { linter with fix := false }.checkStream path s = ⟨s, .ok (reported, 0)⟩ ∧
      (∀ v ∈ reported, v.fixed = false) ∧
      ∀ (violations : List Violation) (count : Nat),
        ({ linter with fix := true }.checkStream path s).result = .ok (violations, count) →
          violations.map Violation.cleared = reported ∧
          count = violations.countP Violation.fixed ∧
          ∀ (i : Nat) (v : Violation), violations[i]? = some v → v.fixed = true →
            v.fixTag ≠ none ∧ ∃ rule ∈ linter.rules, linter.settings.isEnabled rule.name = true ∧
              (linter.attributed (.ofStream path s linter.root))[i]? = some (rule, v.cleared) := by
  have unmarked : ∀ v ∈ (linter.reports (.ofStream path s linter.root)).flatMap
      (fun report => report.2), v.fixed = false := by
    intro v member
    rw [← map_snd_attributed] at member
    obtain ⟨⟨rule, w⟩, listed, rfl⟩ := List.mem_map.mp member
    obtain ⟨among, _, found⟩ := enabled_of_mem_attributed listed
    exact fixed_of_mem_reportOf (fresh rule among) w found
  refine ⟨_, rfl, unmarked, fun violations count passed => ?_⟩
  have settled : Settles ((linter.reports (.ofStream path s linter.root)).flatMap
      fun report => report.2) violations count := settles_of_repairAll passed
  have cleared := settled.map_cleared unmarked
  refine ⟨cleared, settled.edits_eq unmarked, fun i v here marked => ⟨?_, ?_⟩⟩
  · have tagged := settled.isFixable_of_fixed unmarked v (List.mem_of_getElem? here) marked
    exact Option.isSome_iff_ne_none.mp tagged
  · -- Clearing keeps places, so the violation was reported where it stands.
    have place : ((linter.attributed (.ofStream path s linter.root)).map Prod.snd)[i]? =
        some v.cleared := by
      rw [map_snd_attributed, ← cleared, List.getElem?_map, here]
      rfl
    rw [List.getElem?_map] at place
    obtain ⟨⟨rule, w⟩, listed, equal⟩ := Option.map_eq_some_iff.mp place
    dsimp only at equal
    subst equal
    obtain ⟨among, enabled, _⟩ := enabled_of_mem_attributed (List.mem_of_getElem? listed)
    exact ⟨rule, among, enabled, listed⟩

/-- A rule that reports every node at its keyword as if it had a repair. -/
def tagsNodes (name : String) (fix : TokenStream → Violation → Except FixError Edit) : Rule where
  name := name
  code := "WS100"
  check := fun ctx => ctx.nodes.map fun b =>
    { ctx.violationAt { name, code := "WS100" } b.start "node blocks are not allowed" with
      fixTag := some "probe" }
  fix := fix

/-- A repair that edits behind the end of the stream. -/
def editNowhere (s : TokenStream) (_ : Violation) : Except FixError Edit := .ok ⟨s.size, "nowhere"⟩

/-- A repair that is always refused. -/
def refuse (_ : TokenStream) (v : Violation) : Except FixError Edit := .error (.ofViolation v)

/-- A rule that is switched off, one whose edits name no token, and the layering rule. -/
def mixed : Linter where
  root := "."
  rules := [tagsNodes "off" refuse, tagsNodes "lost" editNowhere, Layering.rule {}]
  exclude := []
  settings := { rules := [("off", { enabled := some false })] }
  fix := true
  strict := false

/-- Four violations are reported. The one whose edit names no token comes back as it was, before
three that are marked. -/
theorem checkStream_diagnoses_alike_of_mixed :
    ∃ reported violations,
      { mixed with fix := false }.checkStream "site.pp" (.nodeOf "db1\\.wmnet$") =
          ⟨.nodeOf "db1\\.wmnet$", .ok (reported, 0)⟩ ∧
        ({ mixed with fix := true }.checkStream "site.pp" (.nodeOf "db1\\.wmnet$")).result =
          .ok (violations, 3) ∧
        violations.map Violation.cleared = reported ∧
        violations.map Violation.fixed = [false, true, true, true] := by
  have fresh : ∀ rule ∈ mixed.rules, ∀ v ∈ rule.check
      (.ofStream "site.pp" (.nodeOf "db1\\.wmnet$") mixed.root), v.fixed = false := by
    decide +kernel
  obtain ⟨reported, plain, _, alike⟩ :=
    checkStream_diagnoses_alike mixed "site.pp" (.nodeOf "db1\\.wmnet$") fresh
  have outcome : ({ mixed with fix := true }.checkStream "site.pp"
      (.nodeOf "db1\\.wmnet$")).result.toOption.map (fun outcome : List Violation × Nat =>
        (outcome.2, outcome.1.map Violation.fixed)) = some (3, [false, true, true, true]) := by
    decide +kernel
  cases passed : ({ mixed with fix := true }.checkStream "site.pp"
      (.nodeOf "db1\\.wmnet$")).result with
  | error e =>
    rw [passed] at outcome
    cases outcome
  | ok pair =>
    obtain ⟨violations, count⟩ := pair
    rw [passed] at outcome
    simp only [Except.toOption, Option.map_some, Option.some.injEq, Prod.mk.injEq] at outcome
    obtain ⟨rfl, marks⟩ := outcome
    exact ⟨reported, violations, plain, rfl, (alike violations 3 passed).1, marks⟩

/-! ### A pass that is refused -/

theorem exists_refusal_of_repair {rule : Rule} {violations : List Violation}
    (refused : (repair rule s violations).result = .error e) :
    ∃ seen v unseen done count, violations = seen ++ v :: unseen ∧ v.isFixable = true ∧
      rule.fix (repair rule s violations).stream v = .error e ∧
      repair rule s seen = ⟨(repair rule s violations).stream, .ok (done, count)⟩ := by
  induction violations generalizing s with
  | nil => cases refused
  | cons v rest ih =>
    rcases repair_cons_cases rule s v with ⟨e', tagged, asked, stops⟩ | ⟨next, w, made, _, goes⟩
    · rw [stops] at refused ⊢
      cases refused
      exact ⟨[], v, rest, [], 0, rfl, tagged, asked, rfl⟩
    · rw [goes] at refused ⊢
      obtain ⟨seen, u, unseen, done, count, rfl, tagged, asked, before⟩ :=
        ih (Pass.error_of_prepend refused)
      refine ⟨v :: seen, u, unseen, [w] ++ done, made + count, rfl, tagged, asked, ?_⟩
      rw [goes, before]
      rfl

theorem exists_refusal_of_repairAll {reports : List (Rule × List Violation)}
    (refused : (repairAll s reports).result = .error e) :
    ∃ before rule seen v unseen after done count,
      reports = before ++ (rule, seen ++ v :: unseen) :: after ∧ v.isFixable = true ∧
      rule.fix (repairAll s reports).stream v = .error e ∧
      repairAll s (before ++ [(rule, seen)]) =
        ⟨(repairAll s reports).stream, .ok (done, count)⟩ := by
  induction reports generalizing s with
  | nil => cases refused
  | cons report rest ih =>
    obtain ⟨rule, violations⟩ := report
    cases result : (repair rule s violations).result with
    | error e' =>
      -- The rule's own pass stops, and with it the whole one.
      have stops : repairAll s ((rule, violations) :: rest) =
          ⟨(repair rule s violations).stream, .error e'⟩ := by simp [repairAll, result]
      rw [stops] at refused ⊢
      cases refused
      obtain ⟨seen, v, unseen, done, count, rfl, tagged, asked, before⟩ :=
        exists_refusal_of_repair result
      refine ⟨[], rule, seen, v, unseen, rest, done, count, rfl, tagged, asked, ?_⟩
      simp [repairAll, before, Pass.prepend]
    | ok outcome =>
      obtain ⟨settled, made⟩ := outcome
      have goes (others : List (Rule × List Violation)) :
          repairAll s ((rule, violations) :: others) =
            (repairAll (repair rule s violations).stream others).prepend settled made := by
        simp [repairAll, result]
      rw [goes] at refused ⊢
      obtain ⟨before, other, seen, v, unseen, after, done, count, rfl, tagged, asked, earlier⟩ :=
        ih (Pass.error_of_prepend refused)
      refine ⟨(rule, violations) :: before, other, seen, v, unseen, after, settled ++ done,
        made + count, rfl, tagged, asked, ?_⟩
      rw [List.cons_append, goes, earlier]
      rfl

end Linter

/-- Rewriting gives the same stream back exactly if it changes no text. -/
theorem TokenStream.Rewrites.eq_self_iff {s t : TokenStream} {rewrite : Nat → String → String}
    (rewritten : s.Rewrites t rewrite) :
    t = s ↔ ∀ i < s.size, rewrite i (s.text i) = s.text i := by
  constructor
  · rintro rfl i inside
    exact (rewritten.text inside).symm
  · intro same
    apply TokenStream.ext
    apply Array.ext_getElem?
    intro i
    show t.token? i = s.token? i
    rw [rewritten i]
    cases here : s.token? i with
    | none => rfl
    | some token =>
      have inside : i < s.size := (Array.getElem?_eq_some_iff.mp here).1
      have text : s.text i = token.text := by
        rw [TokenStream.text, here]
        rfl
      have unchanged := same i inside
      rw [text] at unchanged
      rw [Option.map_some, unchanged]

namespace Linter

/-- What a refused pass leaves, whatever the rules are. It stops at a violation whose repair is
refused on the stream that the pass leaves, and that stream is the one on which a pass over the
violations before it succeeds. It comes from the stream that was given by the edits made until then,
so it is that stream exactly if these come to no change of a text. -/
theorem stream_of_refused_pass (linter : Linter) {path : String} {s : TokenStream} {e : FixError}
    (refused : (linter.checkStream path s).result = .error e) :
    (∃ before rule seen v unseen after done count,
      linter.reports (.ofStream path s linter.root) =
          before ++ (rule, seen ++ v :: unseen) :: after ∧
        v.isFixable = true ∧ rule.fix (linter.checkStream path s).stream v = .error e ∧
        repairAll s (before ++ [(rule, seen)]) =
          ⟨(linter.checkStream path s).stream, .ok (done, count)⟩) ∧
      (linter.editsOf path s).foldlM TokenStream.edit? s =
        some (linter.checkStream path s).stream ∧
      ((linter.checkStream path s).stream = s ↔ ∀ i < s.size,
        TokenStream.editedText (linter.editsOf path s) i (s.text i) = s.text i) := by
  have made := (made_checkStream linter path s).stream
  refine ⟨?_, made, (TokenStream.rewrites_of_edits made).eq_self_iff⟩
  rw [checkStream] at refused ⊢
  split at refused
  next fix =>
    rw [if_pos fix]
    exact exists_refusal_of_repairAll refused
  · cases refused

/-- The layering rule, and then a rule whose repairs are refused. -/
def refusing : Linter where
  root := "."
  rules := [Layering.rule {}, tagsNodes "tag" refuse]
  exclude := []
  settings := {}
  fix := true
  strict := false

/-- Nothing has been edited when the repair is refused, so the stream is the one that was given. -/
theorem stream_of_refused_pass_of_anchored :
    (refusing.checkStream "site.pp" (.nodeOf "^a")).result = .error (.unsupported "probe") ∧
      (refusing.checkStream "site.pp" (.nodeOf "^a")).stream = .nodeOf "^a" := by
  have refused : (refusing.checkStream "site.pp" (.nodeOf "^a")).result =
      .error (.unsupported "probe") := rfl
  have none : refusing.editsOf "site.pp" (.nodeOf "^a") = [] := by decide +kernel
  refine ⟨refused, (stream_of_refused_pass refusing refused).2.2.mpr fun i _ => ?_⟩
  rw [none]
  rfl

/-- The pattern has been anchored when the repair is refused, and stays so. -/
theorem exists_refused_pass_with_edits :
    (refusing.checkStream "site.pp" (.nodeOf "a")).result = .error (.unsupported "probe") ∧
      (refusing.checkStream "site.pp" (.nodeOf "a")).stream.text 1 = "^a" ∧
      (refusing.checkStream "site.pp" (.nodeOf "a")).stream ≠ .nodeOf "a" := by
  have refused : (refusing.checkStream "site.pp" (.nodeOf "a")).result =
      .error (.unsupported "probe") := rfl
  have anchored : (refusing.checkStream "site.pp" (.nodeOf "a")).stream.text 1 = "^a" := by
    decide +kernel
  refine ⟨refused, anchored, fun same => ?_⟩
  rw [same] at anchored
  exact absurd anchored (by decide)

end Linter

end ManifestLint
