import ManifestLint.Proofs.Linter.Convergence
import ManifestLint.Proofs.NodePattern.Search

/-!
# A repair pass normalizes node patterns

A pass applies only the repairs that are asked for, each on what the ones before it have left. Where
no domain can hide from the search, this comes to the same as normalizing the patterns of nodes, and
the pass touches no other token.
-/
namespace ManifestLint.Linter

variable {linter : Linter} {c : Conventions}

/-- The repairs of a pass add up: every regular expression among the titles of nodes is left in its
normal form, and every other token as it was. -/
theorem checkStream_normalizes (repairs : linter.RepairsBy c)
    (plain : NodePattern.PlainDomains c.disallowedDomains)
    (unbordered : NodePattern.UnborderedDomains c.disallowedDomains) (path : String)
    (s : TokenStream) :
    ∃ t violations count, linter.checkStream path s = ⟨t, .ok (violations, count)⟩ ∧
      (∀ i ∈ s.nodeTitles, s.isKind i .regex = true →
        t.text i = NodePattern.normalize c.disallowedDomains (s.text i)) ∧
      ∀ i, ¬ (i ∈ s.nodeTitles ∧ s.isKind i .regex = true) → t.token? i = s.token? i := by
  obtain ⟨t, passed, rewritten⟩ := checkStream_mends repairs path s
  refine ⟨t, _, _, passed, fun i title regex => ?_, fun i other => ?_⟩
  · rw [rewritten.text (TokenStream.lt_size_of_isKind regex), if_pos ⟨title, regex⟩]
    exact NodePattern.mend_wanted_eq_normalize plain unbordered (s.text i)
  · rw [rewritten i]
    simp only [if_neg other, Option.map_id']

/-- A node with two titles, one of them no pattern, and a regular expression in its body. -/
def mixedTitles : TokenStream :=
  .ofList [.new .nodeKw "node" 1 1, .new .regex "a\\.wikimedia\\.org$" 1 6, .new .comma "," 1 26,
    .new .quoted "b.wmnet" 1 28, .new .lbrace "\x7b" 1 38, .new .regex "c\\.wmnet$" 2 3,
    .new .rbrace "\x7d" 3 1]

/-- Only the pattern among the titles changes. -/
theorem checkStream_normalizes_of_mixedTitles :
    ∃ t violations, repairing.checkStream "site.pp" mixedTitles = ⟨t, .ok (violations, 3)⟩ ∧
      t.text 1 = "^a\\." ∧ t.text 3 = "b.wmnet" ∧ t.text 5 = "c\\.wmnet$" := by
  obtain ⟨t, violations, count, passed, titles, others⟩ :=
    checkStream_normalizes repairsBy_repairing (by decide) (by decide) "site.pp" mixedTitles
  have three : (repairing.checkStream "site.pp" mixedTitles).result.toOption.map Prod.snd =
      some 3 := by decide +kernel
  rw [passed] at three
  obtain rfl := Option.some.inj three
  have normal : NodePattern.normalize ["wmnet", "wikimedia.org"] "a\\.wikimedia\\.org$" =
      "^a\\." := by decide +kernel
  refine ⟨t, violations, passed, (titles 1 (by decide) (by decide)).trans normal, ?_, ?_⟩
  · rw [TokenStream.text, others 3 (by decide)]
    rfl
  · rw [TokenStream.text, others 5 (by decide)]
    rfl

end ManifestLint.Linter
