import ManifestLint.Proofs.NodePattern.Normalize
import ManifestLint.Proofs.NodePattern.Occurrence

/-!
# Where the search for domains sees all of them

The search that reports a domain passes over an occurrence that overlaps an earlier one, and so it
can miss the very one that stripping would take off. A spelling that cannot overlap itself is found
wherever it stands. If all spellings are like that, mending a pattern, which only applies the
repairs that are asked for, comes to the same as normalizing it.
-/
namespace ManifestLint.NodePattern

/-- A spelling that cannot overlap itself: what both begins and ends it is nothing or all of it. -/
def Unbordered (spelling : List Char) : Prop :=
  ∀ border, border ≠ [] → border <+: spelling → border <:+ spelling → border = spelling

instance (spelling : List Char) : Decidable (Unbordered spelling) :=
  decidable_of_iff (∀ border ∈ spelling.inits, border ≠ [] → border <:+ spelling →
      border = spelling) <| by
    simp only [List.mem_inits]
    exact ⟨fun each border some begins => each border begins some,
      fun each border begins some => each border some begins⟩

/-- Domains of which no spelling can overlap itself. -/
def UnborderedDomains (domains : List String) : Prop :=
  ∀ domain ∈ domains, ∀ spelling ∈ spellings domain, Unbordered spelling

instance (domains : List String) : Decidable (UnborderedDomains domains) :=
  inferInstanceAs (Decidable (∀ domain ∈ domains, ∀ spelling ∈ spellings domain, _))

variable {domains : List String}

theorem Unbordered.seamless {spelling : List Char} (unbordered : Unbordered spelling) :
    Seamless spelling := by
  intro front back cut dot proper again
  have whole := unbordered back proper again (cut ▸ List.suffix_append front back)
  rw [whole, List.self_eq_append_left] at cut
  simp [cut] at dot

/-- What stripping takes off is reported. -/
theorem domainIn?_ne_none_of_stripOnce? (unbordered : UnborderedDomains domains)
    {body before : List Char} (stripped : stripOnce? domains body = some before) :
    domainIn? domains body ≠ none := by
  obtain ⟨domain, listed, named⟩ := exists_names_of_stripOnce? stripped
  have seamless : SeamlessDomains domains := fun domain listed spelling spelled =>
    (unbordered domain listed spelling spelled).seamless
  exact domainIn?_ne_none_iff.mpr ⟨domain, listed, shows_of_names seamless listed named⟩

/-! ### Mending as normalizing -/

theorem settle_eq_normalBody (plain : PlainDomains domains)
    (unbordered : UnborderedDomains domains) (body : List Char) :
    settle domains body = normalBody domains body := by
  cases stripped : stripOnce? domains body with
  | none =>
    have idle := stripDomains_of_none stripped
    rw [settle_of_stripDomains_eq plain idle, normalBody]
    exact (stripDomains_of_none ((stripOnce?_anchors plain body).mpr stripped)).symm
  | some before =>
    rw [settle, if_neg (domainIn?_ne_none_of_stripOnce? unbordered stripped), normalBody]

theorem mend_wanted_eq_normalize (plain : PlainDomains domains)
    (unbordered : UnborderedDomains domains) (text : String) :
    mend domains (wanted domains text) text = normalize domains text := by
  rw [mend_wanted plain, settle_eq_normalBody plain unbordered, normalize_eq plain]

/-- A spelling that overlaps itself is missed, and the pattern is not mended to its normal form. -/
example : mend ["a.a"] (wanted ["a.a"] "^xa.a.a") "^xa.a.a" = "^xa.a.a" ∧
    normalize ["a.a"] "^xa.a.a" = "^xa." := by decide +kernel

end ManifestLint.NodePattern
