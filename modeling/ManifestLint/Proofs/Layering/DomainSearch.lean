import ManifestLint.Proofs.Linter.Convergence
import ManifestLint.Proofs.NodePattern.Occurrence

/-!
# Domains that go unreported

The check reports a pattern exactly if a domain is named in it where no occurrence that the search
takes overlaps it. Stripping looks at the end of a pattern and sees what the search has overlooked,
so it can change a pattern that is not reported. Both agree if the spellings of the domains are
seamless, as those of the usual conventions are.
-/
namespace ManifestLint.Layering

open NodePattern

variable {c : Conventions} {s : TokenStream} {i : Nat}

theorem exists_names_of_stripped {text : String}
    (changed : Repair.stripDomain.apply c.disallowedDomains text ≠ text) :
    ∃ domain ∈ c.disallowedDomains, Names (split text.toList).2 domain := by
  rw [Ne, apply_eq_self_iff] at changed
  cases stripped : stripOnce? c.disallowedDomains (split text.toList).2 with
  | none => exact absurd (stripDomains_of_none stripped) changed
  | some before => exact exists_names_of_stripOnce? stripped

theorem domain_reported_iff (path root : String) (title : i ∈ s.nodeTitles)
    (regex : s.isKind i .regex = true) :
    (∃ v ∈ check c (.ofStream path s root), v.Reports .stripDomain i) ↔
      ∃ domain ∈ c.disallowedDomains, Shows (split (s.text i).toList).2 domain := by
  rw [Linter.exists_reports_iff, Suffers, domainIn?_ne_none_iff]
  simp only [title, regex, true_and]

/-- The search finds the first domain that is named where nothing it takes overlaps it. That is the
first domain that is named at all, unless all that names it there is overlapped. A pattern is
reported if some domain is found in it, and one that stripping would change names a domain. Where
spellings are seamless, named and found is the same, and what stripping would change is reported. -/
theorem domain_search_iff (c : Conventions) (path root : String) (s : TokenStream) :
    (∀ body,
      domainIn? c.disallowedDomains body = c.disallowedDomains.find? (Shows body ·) ∧
        (domainIn? c.disallowedDomains body = c.disallowedDomains.find? (Names body ·) ↔
          ∀ domain, c.disallowedDomains.find? (Names body ·) = some domain →
            Shows body domain)) ∧
      (∀ i ∈ s.nodeTitles, s.isKind i .regex = true →
        ((∃ v ∈ check c (.ofStream path s root), v.Reports .stripDomain i) ↔
            ∃ domain ∈ c.disallowedDomains, Shows (split (s.text i).toList).2 domain) ∧
          (Repair.stripDomain.apply c.disallowedDomains (s.text i) ≠ s.text i →
            ∃ domain ∈ c.disallowedDomains, Names (split (s.text i).toList).2 domain)) ∧
      (SeamlessDomains c.disallowedDomains →
        (∀ body, domainIn? c.disallowedDomains body =
          c.disallowedDomains.find? (Names body ·)) ∧
          ∀ i ∈ s.nodeTitles, s.isKind i .regex = true →
            Repair.stripDomain.apply c.disallowedDomains (s.text i) ≠ s.text i →
              ∃ v ∈ check c (.ofStream path s root), v.Reports .stripDomain i) := by
  refine ⟨fun body => ?_, fun i title regex => ?_, fun seamless => ⟨fun body => ?_, ?_⟩⟩
  · exact ⟨domainIn?_eq_find? _ body, domainIn?_eq_find?_names_iff _ body⟩
  · exact ⟨domain_reported_iff path root title regex, exists_names_of_stripped⟩
  · rw [domainIn?_eq_find?_names_iff]
    intro domain first
    have named : Names body domain := by simpa using List.find?_some first
    exact shows_of_names seamless (List.mem_of_find?_eq_some first) named
  · intro i title regex changed
    obtain ⟨domain, listed, named⟩ := exists_names_of_stripped changed
    rw [domain_reported_iff path root title regex]
    exact ⟨domain, listed, shows_of_names seamless listed named⟩

/-- The usual domains are seamless. -/
example : SeamlessDomains ({} : Conventions).disallowedDomains := by decide

/-- A domain that overlaps itself is still found behind an occurrence that does not count. -/
theorem domain_search_iff_of_second_occurrence :
    Repair.stripDomain.apply ["a.a"] "^xa.a.b.a.a" = "^xa.a.b." ∧
      domainIn? ["a.a"] "^xa.a.b.a.a".toList = some "a.a" ∧
      ∃ v ∈ check { disallowedDomains := ["a.a"] }
        (.ofStream "site.pp" (.nodeOf "^xa.a.b.a.a") "."), v.Reports .stripDomain 1 := by
  have all := domain_search_iff { disallowedDomains := ["a.a"] } "site.pp" "."
    (.nodeOf "^xa.a.b.a.a")
  have first : ["a.a"].find? (Names "^xa.a.b.a.a".toList ·) = some "a.a" := by decide +kernel
  have shown : Shows "^xa.a.b.a.a".toList "a.a" := by decide +kernel
  have found := (all.1 "^xa.a.b.a.a".toList).2.mpr fun domain hit => by
    obtain rfl := Option.some.inj (first.symm.trans hit)
    exact shown
  have reported := (all.2.1 1 (by decide +kernel) (by decide +kernel)).1
  exact ⟨by decide +kernel, found.trans first, reported.mpr ⟨"a.a", by decide, shown⟩⟩

/-- Stripping takes off a domain that overlaps an occurrence before it, and the check reports
nothing. -/
theorem overlapped_domain_unreported :
    Names "^xa.a.a".toList "a.a" ∧ domainIn? ["a.a"] "^xa.a.a".toList = none ∧
      Repair.stripDomain.apply ["a.a"] "^xa.a.a" = "^xa." ∧
      1 ∈ (TokenStream.nodeOf "^xa.a.a").nodeTitles ∧
      (TokenStream.nodeOf "^xa.a.a").isKind 1 .regex = true ∧
      check { disallowedDomains := ["a.a"] }
        (.ofStream "site.pp" (.nodeOf "^xa.a.a") ".") = [] := by
  decide +kernel

end ManifestLint.Layering
