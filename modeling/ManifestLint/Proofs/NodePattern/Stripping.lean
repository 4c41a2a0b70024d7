import ManifestLint.Proofs.NodePattern.Domain

/-!
# When stripping domains comes to an end

Stripping goes round after round, and only a round that finds nothing to strip ends it. A round that
strips something leaves a text before a segment, and from such a text an empty domain can always be
stripped once more. So the rounds come to an end exactly if no domain is empty or the first of them
finds nothing.
-/
namespace ManifestLint.NodePattern

/-- Rounds of stripping lead from a body to one that the last of them finds nothing to strip from.
-/
inductive Strips (domains : List String) : List Char → List Char → Prop
  | stop {body : List Char} (idle : stripOnce? domains body = none) : Strips domains body body
  | round {body before result : List Char} (stripped : stripOnce? domains body = some before)
      (rest : Strips domains before result) : Strips domains body result

variable {domains : List String} {body before result : List Char}

/-! ### What a round leaves -/

theorem startsSegment_of_stripOnce? (stripped : stripOnce? domains body = some before) :
    startsSegment before = true := by
  obtain ⟨_, _, _, _, _, starts⟩ := exists_of_stripOnce?_eq_some stripped
  exact starts

theorem stripOnce?_ne_none_of_empty (listed : "" ∈ domains) (starts : startsSegment body = true) :
    stripOnce? domains body ≠ none := by
  intro idle
  rw [stripOnce?, List.findSome?_eq_none_iff] at idle
  have missed := idle [] (List.mem_flatMap.mpr ⟨"", listed, mem_spellings.mpr (Or.inr rfl)⟩)
  -- Nothing is an ending of everything, and what is before it is the body itself.
  have whole : dropEnding? [] body = some body := dropEnding?_eq_some_iff.mpr (by simp)
  rw [dropEndAnchors_of_not_anchored (isEndAnchored_of_startsSegment starts), whole,
    Option.filter_some, if_pos starts] at missed
  cases missed

/-! ### Runs -/

theorem not_strips_of_empty (listed : "" ∈ domains) (starts : startsSegment body = true) :
    ¬ Strips domains body result := by
  intro run
  -- Each round leaves a text before a segment again, so none of them finds nothing.
  induction run with
  | stop idle => exact stripOnce?_ne_none_of_empty listed starts idle
  | round stripped _ ih => exact ih (startsSegment_of_stripOnce? stripped)

theorem strips_stripDomains (named : "" ∉ domains) (body : List Char) :
    Strips domains body (stripDomains domains body) :=
  stripDomains_induction named (fun _ idle => .stop idle) (fun _ _ _ stripped run =>
    .round stripped run) body

namespace Strips

theorem named_or_idle (run : Strips domains body result) :
    "" ∉ domains ∨ stripOnce? domains body = none := by
  cases run with
  | stop idle => exact Or.inr idle
  | round stripped rest =>
    left
    intro listed
    exact not_strips_of_empty listed (startsSegment_of_stripOnce? stripped) rest

theorem isPrefix (run : Strips domains body result) : result <+: body := by
  induction run with
  | stop _ => exact List.prefix_refl _
  | round stripped _ ih => exact ih.trans (stripOnce?_isPrefix stripped)

theorem startsSegment_result (run : Strips domains body result)
    (starts : startsSegment body = true) : startsSegment result = true := by
  induction run with
  | stop _ => exact starts
  | round stripped _ ih => exact ih (startsSegment_of_stripOnce? stripped)

/-- A run that ends gives what stripping gives. -/
theorem stripDomains_eq (run : Strips domains body result) :
    stripDomains domains body = result := by
  have bound := run.named_or_idle
  induction run with
  | stop idle => exact stripDomains_of_none idle
  | round stripped rest ih =>
    have named : "" ∉ domains := bound.resolve_right (by simp [stripped])
    rw [stripDomains_of_some named stripped, ih (Or.inl named)]

/-- The rounds come to an end exactly if no domain is empty or the first of them is idle. -/
theorem ends_iff :
    (∃ result, Strips domains body result) ↔ "" ∉ domains ∨ stripOnce? domains body = none := by
  refine ⟨fun ⟨_, run⟩ => run.named_or_idle, ?_⟩
  rintro (named | idle)
  · exact ⟨_, strips_stripDomains named body⟩
  · exact ⟨body, .stop idle⟩

end Strips

/-- The rounds of stripping come to an end exactly if no domain is empty or there is nothing to
strip in the first place. What they end with is a beginning of the body: the body itself if nothing
was stripped, and otherwise a text that ends where a segment of a host name begins. -/
theorem exists_strips_iff (domains : List String) (body : List Char) :
    ((∃ result, Strips domains body result) ↔
        "" ∉ domains ∨ stripOnce? domains body = none) ∧
      ∀ result, Strips domains body result →
        stripDomains domains body = result ∧ result <+: body ∧
          (stripOnce? domains body = none → result = body) ∧
          (stripOnce? domains body ≠ none →
            result = [] ∨ result = ['^'] ∨ result.getLast? = some '.') := by
  refine ⟨Strips.ends_iff, fun result run => ?_⟩
  refine ⟨run.stripDomains_eq, run.isPrefix, fun idle => ?_, fun active => ?_⟩
  · rw [← run.stripDomains_eq, stripDomains_of_none idle]
  · cases run with
    | stop idle => exact absurd idle active
    | round stripped rest =>
      have starts := rest.startsSegment_result (startsSegment_of_stripOnce? stripped)
      exact startsSegment_iff.mp starts

/-- Two domains and an anchor go in two rounds. With an empty domain beside them the rounds on the
same body never end, while a body that ends with no whole segment is left at once. -/
theorem exists_strips_iff_of_chain :
    Strips ["wmnet", "eqiad."] "^db.eqiad.wmnet$".toList "^db.".toList ∧
      stripDomains ["wmnet", "eqiad."] "^db.eqiad.wmnet$".toList = "^db.".toList ∧
      (¬ ∃ result, Strips ["wmnet", "eqiad.", ""] "^db.eqiad.wmnet$".toList result) ∧
      ∃ result, Strips ["wmnet", ""] "^labwmnet".toList result := by
  have first : stripOnce? ["wmnet", "eqiad."] "^db.eqiad.wmnet$".toList =
      some "^db.eqiad.".toList := by decide +kernel
  have second : stripOnce? ["wmnet", "eqiad."] "^db.eqiad.".toList = some "^db.".toList := by
    decide +kernel
  have ended : Strips ["wmnet", "eqiad."] "^db.eqiad.wmnet$".toList "^db.".toList :=
    .round first (.round second (.stop (by decide +kernel)))
  refine ⟨ended, ((exists_strips_iff _ _).2 _ ended).1, ?_, ?_⟩
  · rw [(exists_strips_iff _ _).1]
    decide +kernel
  · rw [(exists_strips_iff _ _).1]
    decide +kernel

end ManifestLint.NodePattern
