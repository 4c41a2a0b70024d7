import ManifestLint.Proofs.NodePattern.Domain
import Mathlib.Data.List.Infix

/-!
# What the search for domains finds

The search goes through a body from the left and takes every occurrence of a spelling that does not
overlap one taken before. Only then it asks whether a segment of a host name begins there. So it
finds a domain exactly if it is named where no occurrence that is taken overlaps it. Nothing is
overlooked where no spelling can begin again within itself behind a dot.
-/
namespace ManifestLint.NodePattern

/-- A spelling stands in a body at an offset. -/
def OccursAt (spelling body : List Char) (offset : Nat) : Prop :=
  ∃ before after, body = before ++ spelling ++ after ∧ before.length = offset

/-- An occurrence that is taken from the left: it overlaps none taken before it. -/
def Taken (spelling body : List Char) (offset : Nat) : Prop :=
  OccursAt spelling body offset ∧
    ∀ earlier, earlier < offset → offset < earlier + spelling.length →
      ¬ Taken spelling body earlier
termination_by offset

/-- An occurrence that is taken overlaps what begins at an offset. -/
def Overlapped (spelling body : List Char) (offset : Nat) : Prop :=
  ∃ earlier, Taken spelling body earlier ∧ earlier < offset ∧ offset < earlier + spelling.length

/-- A domain is named in a body: one of its spellings stands where a segment begins. -/
def Names (body : List Char) (domain : String) : Prop :=
  ∃ spelling ∈ spellings domain, ∃ before after, body = before ++ spelling ++ after ∧
    (before = [] ∨ before = ['^'] ∨ before.getLast? = some '.')

/-- A domain is named in a body where no occurrence that is taken overlaps it. -/
def Shows (body : List Char) (domain : String) : Prop :=
  ∃ spelling ∈ spellings domain, ∃ before after, body = before ++ spelling ++ after ∧
    (before = [] ∨ before = ['^'] ∨ before.getLast? = some '.') ∧
    ¬ Overlapped spelling body before.length

/-- A spelling that does not begin again within itself behind a dot. -/
def Seamless (spelling : List Char) : Prop :=
  ∀ front back, spelling = front ++ back → front.getLast? = some '.' → back ≠ [] →
    ¬ back <+: spelling

instance (spelling : List Char) : Decidable (Seamless spelling) :=
  decidable_of_iff (∀ front ∈ spelling.inits, front.getLast? = some '.' →
      spelling.drop front.length ≠ [] → ¬ spelling.drop front.length <+: spelling) <| by
    simp only [List.mem_inits, Seamless]
    constructor
    · rintro each front back rfl
      simpa using each front (List.prefix_append front back)
    · rintro each front ⟨back, rfl⟩
      simpa using each front back rfl

/-- Domains of which no spelling begins again within itself behind a dot. -/
def SeamlessDomains (domains : List String) : Prop :=
  ∀ domain ∈ domains, ∀ spelling ∈ spellings domain, Seamless spelling

instance (domains : List String) : Decidable (SeamlessDomains domains) :=
  inferInstanceAs (Decidable (∀ domain ∈ domains, ∀ spelling ∈ spellings domain, _))

variable {domains : List String} {spelling body : List Char}

/-! ### Occurrences -/

theorem occursAt_zero : OccursAt spelling body 0 ↔ spelling <+: body := by
  constructor
  · rintro ⟨before, after, rfl, empty⟩
    rw [List.length_eq_zero_iff.mp empty]
    exact List.prefix_append spelling after
  · rintro ⟨after, rfl⟩
    exact ⟨[], after, by simp⟩

theorem occursAt_cons_succ {c : Char} {offset : Nat} :
    OccursAt spelling (c :: body) (offset + 1) ↔ OccursAt spelling body offset := by
  constructor
  · rintro ⟨before, after, equal, length⟩
    obtain ⟨d, before, rfl⟩ := List.exists_cons_of_length_eq_add_one length
    obtain ⟨rfl, rest⟩ := List.cons.inj equal
    exact ⟨before, after, rest, by simpa using length⟩
  · rintro ⟨before, after, rfl, rfl⟩
    exact ⟨c :: before, after, by simp⟩

theorem occursAt_nil {offset : Nat} : OccursAt spelling [] offset ↔ spelling = [] ∧ offset = 0 := by
  constructor
  · rintro ⟨before, after, empty, rfl⟩
    simp_all
  · rintro ⟨rfl, rfl⟩
    exact ⟨[], [], rfl, rfl⟩

/-- The search finds an occurrence unless it is skipped or overlaps one found before. -/
theorem mem_offsets_iff (text : List Char) {skip : Nat} (fits : skip ≤ spelling.length - 1)
    (found : Nat) :
    found ∈ offsets spelling 0 skip text ↔
      skip ≤ found ∧ OccursAt spelling text found ∧
        ∀ earlier ∈ offsets spelling 0 skip text, earlier < found →
          earlier + spelling.length ≤ found := by
  induction text generalizing skip found with
  | nil =>
    rw [offsets, occursAt_nil]
    cases spelling with
    | nil =>
      obtain rfl : skip = 0 := Nat.le_zero.mp fits
      simp
    | cons c spelling => simp
  | cons c rest ih =>
    cases skip with
    | succ skip =>
      rw [offsets, offsets_succ]
      cases found with
      | zero => simp
      | succ found =>
        have rest_iff := ih (Nat.le_of_succ_le fits) found
        simp [occursAt_cons_succ, rest_iff, Nat.add_right_comm]
    | zero =>
      rw [offsets]
      split
      next here =>
        -- Every later occurrence has to begin behind this one, and that is what is skipped.
        rw [offsets_succ]
        cases found with
        | zero => simpa using occursAt_zero.mpr (List.isPrefixOf_iff_prefix.mp here)
        | succ found =>
          have rest_iff := ih (Nat.le_refl (spelling.length - 1)) found
          simp [occursAt_cons_succ, rest_iff, Nat.add_right_comm, and_left_comm]
      next absent =>
        rw [offsets_succ]
        cases found with
        | zero => simpa [occursAt_zero] using absent
        | succ found =>
          have rest_iff := ih (Nat.zero_le _) found
          simp [occursAt_cons_succ, rest_iff, Nat.add_right_comm]

theorem mem_offsets_iff_taken {offset : Nat} :
    offset ∈ offsets spelling 0 0 body ↔ Taken spelling body offset := by
  induction offset using Nat.strongRecOn with
  | ind offset ih =>
    rw [mem_offsets_iff body (Nat.zero_le _) offset, Taken]
    grind

theorem taken_iff {offset : Nat} :
    Taken spelling body offset ↔
      OccursAt spelling body offset ∧ ¬ Overlapped spelling body offset := by
  rw [Taken, Overlapped]
  grind

/-! ### What is named and what is found -/

theorem spells_iff_exists :
    spells body spelling = true ↔ ∃ before after, body = before ++ spelling ++ after ∧
      (before = [] ∨ before = ['^'] ∨ before.getLast? = some '.') ∧
      ¬ Overlapped spelling body before.length := by
  simp only [spells_iff, mem_offsets_iff_taken, taken_iff, startsSegment_iff]
  constructor
  · rintro ⟨offset, ⟨⟨before, after, rfl, rfl⟩, free⟩, begins⟩
    rw [List.append_assoc, List.take_left] at begins
    exact ⟨before, after, rfl, begins, free⟩
  · rintro ⟨before, after, rfl, begins, free⟩
    refine ⟨before.length, ⟨⟨before, after, rfl, rfl⟩, free⟩, ?_⟩
    rwa [List.append_assoc, List.take_left]

theorem shows_iff {domain : String} :
    Shows body domain ↔ (spellings domain).any (spells body) = true := by
  simp only [Shows, List.any_eq_true, spells_iff_exists]

theorem names_iff {domain : String} :
    Names body domain ↔ ∃ spelling ∈ spellings domain, ∃ before ∈ body.inits,
      startsSegment before = true ∧ before ++ spelling <+: body := by
  simp only [Names, List.mem_inits, startsSegment_iff]
  constructor
  · rintro ⟨spelling, spelled, before, after, rfl, begins⟩
    have stands : before ++ spelling <+: before ++ spelling ++ after := List.prefix_append _ _
    exact ⟨spelling, spelled, before, (List.prefix_append _ _).trans stands, begins, stands⟩
  · rintro ⟨spelling, spelled, before, _, begins, after, equal⟩
    exact ⟨spelling, spelled, before, after, equal.symm, begins⟩

instance (body : List Char) (domain : String) : Decidable (Shows body domain) :=
  decidable_of_iff _ shows_iff.symm

instance (body : List Char) (domain : String) : Decidable (Names body domain) :=
  decidable_of_iff _ names_iff.symm

theorem names_of_shows {domain : String} (shown : Shows body domain) : Names body domain := by
  obtain ⟨spelling, spelled, before, after, equal, begins, _⟩ := shown
  exact ⟨spelling, spelled, before, after, equal, begins⟩

theorem domainIn?_eq_find? (domains : List String) (body : List Char) :
    domainIn? domains body = domains.find? fun domain => decide (Shows body domain) := by
  rw [domainIn?]
  congr 1
  funext domain
  rw [Bool.eq_iff_iff, decide_eq_true_iff, shows_iff]

theorem domainIn?_ne_none_iff :
    domainIn? domains body ≠ none ↔ ∃ domain ∈ domains, Shows body domain := by
  simp [domainIn?_eq_find?]

/-- Of two tests the stronger has the first hit of the weaker for its own, if it passes there. -/
theorem find?_eq_find?_iff {α : Type} {p q : α → Bool} (stronger : ∀ x, p x = true → q x = true)
    (xs : List α) : xs.find? p = xs.find? q ↔ ∀ x, xs.find? q = some x → p x = true := by
  constructor
  · intro same x hit
    exact List.find?_some (same.trans hit)
  · intro passes
    cases hit : xs.find? q with
    | none =>
      rw [List.find?_eq_none] at hit ⊢
      exact fun x member holds => hit x member (stronger x holds)
    | some x =>
      obtain ⟨_, front, back, rfl, misses⟩ := List.find?_eq_some_iff_append.mp hit
      rw [List.find?_eq_some_iff_append]
      refine ⟨passes x hit, front, back, rfl, fun y member => ?_⟩
      -- What comes before the hit fails the weaker test already.
      rw [Bool.not_eq_true', ← Bool.not_eq_true]
      intro holds
      simpa [stronger y holds] using misses y member

theorem domainIn?_eq_find?_names_iff (domains : List String) (body : List Char) :
    domainIn? domains body = domains.find? (fun domain => decide (Names body domain)) ↔
      ∀ domain, domains.find? (fun domain => decide (Names body domain)) = some domain →
        Shows body domain := by
  rw [domainIn?_eq_find?, find?_eq_find?_iff]
  · simp only [decide_eq_true_iff]
  · intro domain
    simpa only [decide_eq_true_iff] using names_of_shows

theorem exists_names_of_stripOnce? {before : List Char}
    (stripped : stripOnce? domains body = some before) :
    ∃ domain ∈ domains, Names body domain := by
  obtain ⟨domain, listed, spelling, spelled, equal, starts⟩ :=
    exists_of_stripOnce?_eq_some stripped
  obtain ⟨anchors, cut⟩ := dropEndAnchors_isPrefix body
  rw [equal] at cut
  exact ⟨domain, listed, spelling, spelled, before, anchors, cut.symm, startsSegment_iff.mp starts⟩

/-! ### Spellings that cannot be overlooked -/

/-- Of two occurrences that overlap, what they share ends the first and begins the second. -/
theorem exists_shared_of_overlap {before after start rest : List Char}
    (both : before ++ spelling ++ after = start ++ spelling ++ rest)
    (later : start.length < before.length)
    (overlap : before.length < start.length + spelling.length) :
    ∃ front back, before = start ++ front ∧ front ≠ [] ∧ spelling = front ++ back ∧ back ≠ [] ∧
      back <+: spelling := by
  simp only [List.append_assoc] at both
  obtain ⟨front, rfl⟩ : start <+: before :=
    List.prefix_of_prefix_length_le ⟨spelling ++ rest, both.symm⟩ (List.prefix_append _ _) later.le
  rw [List.append_assoc, List.append_cancel_left_eq] at both
  rw [List.length_append] at later overlap
  obtain ⟨back, equal⟩ : front <+: spelling :=
    List.prefix_of_prefix_length_le ⟨spelling ++ after, both⟩ (List.prefix_append _ _) (by omega)
  have lengths := congrArg List.length equal
  rw [List.length_append] at lengths
  refine ⟨front, back, rfl, ?_, equal.symm, ?_, ?_⟩
  · rintro rfl
    simp at later
  · rintro rfl
    rw [List.length_nil] at lengths
    omega
  · nth_rewrite 2 [← equal] at both
    rw [List.append_assoc, List.append_cancel_left_eq] at both
    exact List.prefix_of_prefix_length_le ⟨rest, both.symm⟩ (List.prefix_append _ _) (by omega)

theorem shows_of_names (seamless : SeamlessDomains domains) {domain : String}
    (listed : domain ∈ domains) (named : Names body domain) : Shows body domain := by
  obtain ⟨spelling, spelled, before, after, equal, begins⟩ := named
  by_cases overlapped : Overlapped spelling body before.length
  · obtain ⟨earlier, taken, later, overlap⟩ := overlapped
    obtain ⟨⟨start, rest, other, rfl⟩, free⟩ := taken_iff.mp taken
    obtain ⟨front, back, rfl, nonempty, cut, proper, again⟩ :=
      exists_shared_of_overlap (equal.symm.trans other) later overlap
    rcases begins with empty | caret | dot
    · simp [nonempty] at empty
    · -- Only the beginning of the body lies before the anchor, and there the domain is found.
      have first : start = [] := by
        cases start with
        | nil => rfl
        | cons c start => simp [nonempty] at caret
      subst first
      exact ⟨spelling, spelled, [], rest, other, Or.inl rfl, free⟩
    · -- The spelling begins again within itself, behind the dot that ends what comes before.
      rw [List.getLast?_append_of_ne_nil _ nonempty] at dot
      exact absurd again (seamless domain listed spelling spelled front back cut dot proper)
  · exact ⟨spelling, spelled, before, after, equal, begins, overlapped⟩

end ManifestLint.NodePattern
