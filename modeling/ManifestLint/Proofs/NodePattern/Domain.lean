import ManifestLint.Proofs.NodePattern.Anchor
import Mathlib.Data.List.Basic

/-!
# Domains in a node pattern

Two searches meet here. The one that reports a domain goes through a body from the left, one
occurrence after the other without overlap; the one that strips domains looks at the end only. The
first sees in a beginning of a body exactly what it sees of it in the body, and neither of them
depends on an anchor at the start. Stripping leaves a beginning of the body that ends with none of
the domains.
-/
namespace ManifestLint.NodePattern

/-- Domains that name something and are not taken for an anchor. -/
def PlainDomains (domains : List String) : Prop :=
  ∀ domain ∈ domains, domain ≠ "" ∧ domain.toList.head? ≠ some '^'

instance (domains : List String) : Decidable (PlainDomains domains) :=
  inferInstanceAs (Decidable (∀ domain ∈ domains, _ ∧ _))

variable {domains : List String}

theorem PlainDomains.named (plain : PlainDomains domains) : "" ∉ domains :=
  fun member => (plain "" member).1 rfl

theorem mem_spellings {domain : String} {spelling : List Char} :
    spelling ∈ spellings domain ↔
      spelling = escapeDots domain.toList ∨ spelling = domain.toList := by
  simp [spellings]

/-- A domain that names something is spelled by some characters. -/
theorem spelling_ne_nil (named : "" ∉ domains) {domain : String} (member : domain ∈ domains)
    {spelling : List Char} (spelled : spelling ∈ spellings domain) : spelling ≠ [] := by
  have nonempty : domain.toList ≠ [] := by
    rw [Ne, String.toList_eq_nil_iff]
    rintro rfl
    exact named member
  rcases mem_spellings.mp spelled with rfl | rfl
  · obtain ⟨c, rest, equal⟩ := List.exists_cons_of_ne_nil nonempty
    rw [equal, escapeDots, List.flatMap_cons]
    split <;> simp
  · exact nonempty

/-- Neither spelling of a plain domain is empty or begins with an anchor. -/
theorem PlainDomains.spelling (plain : PlainDomains domains) {domain : String}
    (member : domain ∈ domains) {spelling : List Char} (spelled : spelling ∈ spellings domain) :
    spelling ≠ [] ∧ spelling.head? ≠ some '^' := by
  refine ⟨spelling_ne_nil plain.named member spelled, ?_⟩
  have head := (plain domain member).2
  rcases mem_spellings.mp spelled with rfl | rfl
  · cases equal : domain.toList with
    | nil => simp [escapeDots]
    | cons c rest =>
      rw [equal] at head
      -- A dot gets a backslash before it, and any other first character stays the first.
      by_cases dot : c = '.'
      · simp [escapeDots, dot]
      · simpa [escapeDots, dot] using head
  · exact head

/-! ### Beginnings of segments -/

theorem startsSegment_iff {before : List Char} :
    startsSegment before = true ↔ before = [] ∨ before = ['^'] ∨ before.getLast? = some '.' := by
  simp [startsSegment, or_assoc]

/-- A text before a segment ends with no anchor. -/
theorem isEndAnchored_of_startsSegment {before : List Char} (starts : startsSegment before = true) :
    isEndAnchored before = false := by
  apply isEndAnchored_eq_false_of_getLast?
  rcases startsSegment_iff.mp starts with rfl | rfl | last
  · simp
  · simp
  · simp [last]

/-- An anchor put in front moves no beginning of a segment. -/
theorem startsSegment_caret_cons {before : List Char} (free : isStartAnchored before = false) :
    startsSegment ('^' :: before) = startsSegment before := by
  cases before with
  | nil => rfl
  | cons c rest =>
    have other : c ≠ '^' := by simpa [isStartAnchored] using free
    simp [startsSegment, other]

/-! ### Occurrences -/

theorem offset_bounds {spelling text : List Char} {offset skip found : Nat}
    (nonempty : spelling ≠ []) (member : found ∈ offsets spelling offset skip text) :
    offset ≤ found ∧ found + spelling.length ≤ offset + text.length := by
  induction text generalizing offset skip with
  | nil => simp [offsets, nonempty] at member
  | cons c rest ih =>
    rw [List.length_cons]
    cases skip with
    | succ skip =>
      have bounds := ih member
      omega
    | zero =>
      rw [offsets] at member
      split at member
      next occurs =>
        rcases List.mem_cons.mp member with rfl | later
        -- An occurrence fits into the text that is left.
        · have fits := (List.isPrefixOf_iff_prefix.mp occurs).length_le
          rw [List.length_cons] at fits
          omega
        · have bounds := ih later
          omega
      · have bounds := ih member
        omega

/-- The search in a beginning of a text finds what the search in the text finds of it: it decides
from the left, so what follows can only add occurrences that reach beyond. -/
theorem mem_offsets_append {spelling : List Char} (nonempty : spelling ≠ [])
    (text rest : List Char) (offset skip found : Nat) :
    found ∈ offsets spelling offset skip text ↔
      found ∈ offsets spelling offset skip (text ++ rest) ∧
        found + spelling.length ≤ offset + text.length := by
  induction text generalizing offset skip with
  | nil =>
    have positive := List.length_pos_iff.mpr nonempty
    simp only [offsets, List.isEmpty_iff, nonempty, if_false, List.not_mem_nil, List.nil_append,
      List.length_nil, Nat.add_zero, false_iff, not_and]
    intro member
    have bounds := offset_bounds nonempty member
    omega
  | cons c text ih =>
    rw [List.cons_append, List.length_cons]
    have shift : offset + (text.length + 1) = offset + 1 + text.length := by omega
    cases skip with
    | succ skip =>
      rw [offsets, offsets, shift]
      exact ih (offset + 1) skip
    | zero =>
      rw [offsets, offsets]
      by_cases inside : spelling.isPrefixOf (c :: text) = true
      · -- The occurrence lies within the beginning, and both searches go on behind it.
        have before := List.isPrefixOf_iff_prefix.mp inside
        have fits := before.length_le
        have whole : spelling.isPrefixOf (c :: (text ++ rest)) = true :=
          List.isPrefixOf_iff_prefix.mpr (before.trans (List.prefix_append (c :: text) rest))
        rw [if_pos inside, if_pos whole, List.mem_cons, List.mem_cons, ih, shift]
        rw [List.length_cons] at fits
        constructor
        · rintro (rfl | later)
          · exact ⟨Or.inl rfl, by omega⟩
          · exact ⟨Or.inr later.1, later.2⟩
        · rintro ⟨rfl | later, bound⟩
          · exact Or.inl rfl
          · exact Or.inr ⟨later, bound⟩
      · rw [if_neg inside]
        by_cases beyond : spelling.isPrefixOf (c :: (text ++ rest)) = true
        · -- The occurrence reaches beyond the beginning, and so does every later one.
          have long : text.length + 1 < spelling.length := by
            refine Nat.lt_of_not_le fun short => inside ?_
            have before := List.isPrefixOf_iff_prefix.mp beyond
            have part : c :: text <+: c :: (text ++ rest) := List.prefix_append (c :: text) rest
            exact List.isPrefixOf_iff_prefix.mpr
              (List.prefix_of_prefix_length_le before part short)
          rw [if_pos beyond]
          constructor
          · intro member
            have bounds := offset_bounds nonempty member
            omega
          · rintro ⟨member, bound⟩
            rcases List.mem_cons.mp member with rfl | later
            · omega
            · have bounds := offset_bounds nonempty later
              omega
        · rw [if_neg beyond, ih, shift]

theorem offsets_succ (spelling text : List Char) (offset skip : Nat) :
    offsets spelling (offset + 1) skip text = (offsets spelling offset skip text).map (· + 1) := by
  induction text generalizing offset skip with
  | nil =>
    rw [offsets, offsets]
    split <;> rfl
  | cons c rest ih =>
    cases skip with
    | succ skip => rw [offsets, offsets, ih]
    | zero =>
      rw [offsets, offsets]
      split
      · rw [List.map_cons, ih]
      · rw [ih]

theorem offsets_caret_cons {spelling : List Char}
    (plain : spelling ≠ [] ∧ spelling.head? ≠ some '^') (text : List Char) :
    offsets spelling 0 0 ('^' :: text) = (offsets spelling 0 0 text).map (· + 1) := by
  -- No spelling begins with the anchor, so the search passes over it.
  have absent : spelling.isPrefixOf ('^' :: text) = false := by
    obtain ⟨c, rest, rfl⟩ := List.exists_cons_of_ne_nil plain.1
    have other : c ≠ '^' := by simpa using plain.2
    simp [List.isPrefixOf, other]
  rw [offsets, absent, if_neg Bool.false_ne_true, offsets_succ]

/-! ### The search for a domain -/

theorem spells_iff {body spelling : List Char} :
    spells body spelling = true ↔
      ∃ offset ∈ offsets spelling 0 0 body, startsSegment (body.take offset) = true := by
  rw [spells, List.any_eq_true]

theorem spells_prefix_iff {part body spelling : List Char} (nonempty : spelling ≠ [])
    (begins : part <+: body) :
    spells part spelling = true ↔
      ∃ offset ∈ offsets spelling 0 0 body, startsSegment (body.take offset) = true ∧
        offset + spelling.length ≤ part.length := by
  obtain ⟨rest, rfl⟩ := begins
  rw [spells_iff]
  constructor
  · rintro ⟨offset, member, starts⟩
    obtain ⟨found, bound⟩ := (mem_offsets_append nonempty part rest 0 0 offset).mp member
    refine ⟨offset, found, ?_, by omega⟩
    rwa [List.take_append_of_le_length (by omega)]
  · rintro ⟨offset, found, starts, bound⟩
    refine ⟨offset, (mem_offsets_append nonempty part rest 0 0 offset).mpr ⟨found, by omega⟩, ?_⟩
    rwa [List.take_append_of_le_length (by omega)] at starts

/-- An anchor at the start hides no domain and makes up none. -/
theorem spells_anchorStart {spelling : List Char}
    (plain : spelling ≠ [] ∧ spelling.head? ≠ some '^') (body : List Char) :
    spells (anchorStart body) spelling = spells body spelling := by
  cases start : isStartAnchored body with
  | true => rw [anchorStart_of_anchored start]
  | false =>
    rw [anchorStart_of_not_anchored start, spells, spells, offsets_caret_cons plain, List.any_map]
    congr 1
    funext offset
    -- Each occurrence moves by one, and the text before it gains the anchor.
    exact startsSegment_caret_cons
      (isStartAnchored_eq_false_of_isPrefix (List.take_prefix offset body) start)

theorem domainIn?_eq_none_iff {body : List Char} :
    domainIn? domains body = none ↔
      ∀ domain ∈ domains, ∀ spelling ∈ spellings domain, spells body spelling = false := by
  simp [domainIn?, List.find?_eq_none]

theorem domainIn?_anchorStart (plain : PlainDomains domains) (body : List Char) :
    domainIn? domains (anchorStart body) = none ↔ domainIn? domains body = none := by
  rw [domainIn?_eq_none_iff, domainIn?_eq_none_iff]
  constructor
  · intro absent domain member spelling spelled
    rw [← spells_anchorStart (plain.spelling member spelled)]
    exact absent domain member spelling spelled
  · intro absent domain member spelling spelled
    rw [spells_anchorStart (plain.spelling member spelled)]
    exact absent domain member spelling spelled

/-- Nothing is found in a beginning of a body when everything found in the body reaches beyond. -/
theorem domainIn?_prefix_eq_none_iff (plain : PlainDomains domains) {part body : List Char}
    (begins : part <+: body) :
    domainIn? domains part = none ↔
      ∀ domain ∈ domains, ∀ spelling ∈ spellings domain, ∀ offset ∈ offsets spelling 0 0 body,
        startsSegment (body.take offset) = true → part.length < offset + spelling.length := by
  rw [domainIn?_eq_none_iff]
  constructor
  · intro absent domain member spelling spelled offset found starts
    refine Nat.lt_of_not_le fun inside => ?_
    have spelledIn := (spells_prefix_iff (plain.spelling member spelled).1 begins).mpr
      ⟨offset, found, starts, inside⟩
    rw [absent domain member spelling spelled] at spelledIn
    exact Bool.false_ne_true spelledIn
  · intro beyond domain member spelling spelled
    rw [← Bool.not_eq_true, spells_prefix_iff (plain.spelling member spelled).1 begins]
    rintro ⟨offset, found, starts, inside⟩
    have reaches := beyond domain member spelling spelled offset found starts
    omega

theorem domainIn?_eq_none_of_isPrefix (plain : PlainDomains domains) {part body : List Char}
    (begins : part <+: body) (absent : domainIn? domains body = none) :
    domainIn? domains part = none := by
  rw [domainIn?_prefix_eq_none_iff plain begins]
  intro domain member spelling spelled offset found starts
  have reaches := (domainIn?_prefix_eq_none_iff plain (List.prefix_refl body)).mp absent
    domain member spelling spelled offset found starts
  have shorter := begins.length_le
  omega

/-! ### Stripping domains -/

theorem dropEnding?_eq_some_iff {ending text before : List Char} :
    dropEnding? ending text = some before ↔ text = before ++ ending := by
  rw [dropEnding?]
  constructor
  · intro dropped
    split at dropped
    next ends =>
      obtain ⟨front, rfl⟩ := List.isSuffixOf_iff_suffix.mp ends
      simpa using dropped
    · cases dropped
  · rintro rfl
    have ends : ending.isSuffixOf (before ++ ending) = true :=
      List.isSuffixOf_iff_suffix.mpr (List.suffix_append before ending)
    simp [ends]

/-- One round takes a spelling of a domain off the end of a body without its end anchors. -/
theorem exists_of_stripOnce?_eq_some {body before : List Char}
    (stripped : stripOnce? domains body = some before) :
    ∃ domain ∈ domains, ∃ spelling ∈ spellings domain,
      dropEndAnchors body = before ++ spelling ∧ startsSegment before = true := by
  obtain ⟨spelling, member, found⟩ := List.exists_of_findSome?_eq_some stripped
  obtain ⟨domain, listed, spelled⟩ := List.mem_flatMap.mp member
  obtain ⟨dropped, starts⟩ := Option.filter_eq_some_iff.mp found
  exact ⟨domain, listed, spelling, spelled, dropEnding?_eq_some_iff.mp dropped, starts⟩

theorem stripOnce?_isPrefix {body before : List Char}
    (stripped : stripOnce? domains body = some before) : before <+: body := by
  obtain ⟨_, _, spelling, _, equal, _⟩ := exists_of_stripOnce?_eq_some stripped
  exact (List.prefix_append before spelling).trans (equal ▸ dropEndAnchors_isPrefix body)

theorem stripOnce?_length_lt (named : "" ∉ domains) {body before : List Char}
    (stripped : stripOnce? domains body = some before) : before.length < body.length := by
  obtain ⟨domain, member, spelling, spelled, equal, _⟩ := exists_of_stripOnce?_eq_some stripped
  have positive := List.length_pos_iff.mpr (spelling_ne_nil named member spelled)
  have shorter := (dropEndAnchors_isPrefix body).length_le
  rw [equal, List.length_append] at shorter
  omega

/-- End anchors do not matter to a round, which leaves them out anyway. -/
theorem stripOnce?_dropEndAnchors (domains : List String) (body : List Char) :
    stripOnce? domains (dropEndAnchors body) = stripOnce? domains body := by
  rw [stripOnce?, stripOnce?, dropEndAnchors_idempotent]

/-- A round never takes the anchor at the start for a part of a domain. -/
theorem stripOnce?_isStartAnchored (plain : PlainDomains domains) {body before : List Char}
    (start : isStartAnchored body = true) (stripped : stripOnce? domains body = some before) :
    isStartAnchored before = true := by
  obtain ⟨domain, member, spelling, spelled, equal, _⟩ := exists_of_stripOnce?_eq_some stripped
  obtain ⟨rest, rfl⟩ := isStartAnchored_iff.mp start
  rw [dropEndAnchors_caret_cons] at equal
  cases before with
  | nil =>
    -- Then the domain would be all of the body, its anchor included.
    rw [List.nil_append] at equal
    exact absurd (by rw [← equal]; rfl) (plain.spelling member spelled).2
  | cons c before =>
    rw [List.cons_append] at equal
    rw [← (List.cons.inj equal).1]
    rfl

theorem dropEnding?_caret_cons {ending : List Char}
    (plain : ending ≠ [] ∧ ending.head? ≠ some '^') (text : List Char) :
    dropEnding? ending ('^' :: text) = (dropEnding? ending text).map ('^' :: ·) := by
  apply Option.ext
  intro before
  rw [Option.map_eq_some_iff, dropEnding?_eq_some_iff]
  constructor
  · intro equal
    cases before with
    | nil =>
      rw [List.nil_append] at equal
      exact absurd (by rw [← equal]; rfl) plain.2
    | cons c before =>
      obtain ⟨rfl, rest⟩ := List.cons.inj equal
      exact ⟨before, dropEnding?_eq_some_iff.mpr rest, rfl⟩
  · rintro ⟨front, dropped, rfl⟩
    rw [dropEnding?_eq_some_iff.mp dropped]
    rfl

theorem stripOnce?_caret_cons (plain : PlainDomains domains) {body : List Char}
    (free : isStartAnchored body = false) :
    stripOnce? domains ('^' :: body) = (stripOnce? domains body).map ('^' :: ·) := by
  rw [stripOnce?, stripOnce?, dropEndAnchors_caret_cons, List.map_findSome?, ← List.head?_filterMap,
    ← List.head?_filterMap]
  congr 1
  -- Both sides try the same spellings in the same order.
  apply List.filterMap_congr
  intro spelling member
  obtain ⟨domain, listed, spelled⟩ := List.mem_flatMap.mp member
  rw [dropEnding?_caret_cons (plain.spelling listed spelled)]
  cases dropped : dropEnding? spelling (dropEndAnchors body) with
  | none => simp [dropped]
  | some before =>
    have begins : before <+: body := by
      have equal := dropEnding?_eq_some_iff.mp dropped
      exact (List.prefix_append before spelling).trans (equal ▸ dropEndAnchors_isPrefix body)
    have same := startsSegment_caret_cons (isStartAnchored_eq_false_of_isPrefix begins free)
    cases starts : startsSegment before <;> simp [dropped, same, starts, Option.filter]

/-- Rounds follow each other until one finds nothing to strip. -/
theorem stripDomains_induction (named : "" ∉ domains) {P : List Char → List Char → Prop}
    (stop : ∀ body, stripOnce? domains body = none → P body body)
    (round : ∀ body before result, stripOnce? domains body = some before → P before result →
      P body result)
    (body : List Char) : P body (stripDomains domains body) := by
  fun_induction stripDomains domains body with
  | case1 body none => exact stop body none
  | case2 body before stripped shorter ih => exact round body before _ stripped ih
  | case3 body before stripped longer => exact absurd (stripOnce?_length_lt named stripped) longer

theorem stripDomains_of_none {body : List Char} (none : stripOnce? domains body = none) :
    stripDomains domains body = body := by
  rw [stripDomains, none]

theorem stripDomains_of_some (named : "" ∉ domains) {body before : List Char}
    (stripped : stripOnce? domains body = some before) :
    stripDomains domains body = stripDomains domains before := by
  rw [stripDomains, stripped]
  exact if_pos (stripOnce?_length_lt named stripped)

/-- Stripping only shortens a body at its end. -/
theorem stripDomains_isPrefix (named : "" ∉ domains) (body : List Char) :
    stripDomains domains body <+: body := by
  refine stripDomains_induction named (P := fun body result => result <+: body) ?_ ?_ body
  · intro body _
    exact List.prefix_refl body
  · intro body before result stripped ih
    exact ih.trans (stripOnce?_isPrefix stripped)

/-- No domain is left at the end. -/
theorem stripOnce?_stripDomains (named : "" ∉ domains) (body : List Char) :
    stripOnce? domains (stripDomains domains body) = none := by
  refine stripDomains_induction named (P := fun _ result => stripOnce? domains result = none)
    ?_ ?_ body
  · intro body none
    exact none
  · intro body before result _ ih
    exact ih

theorem stripDomains_eq_self_iff (named : "" ∉ domains) {body : List Char} :
    stripDomains domains body = body ↔ stripOnce? domains body = none := by
  constructor
  · intro same
    rw [← same]
    exact stripOnce?_stripDomains named body
  · exact stripDomains_of_none

/-- A domain that is stripped leaves a whole number of segments. -/
theorem startsSegment_stripDomains (named : "" ∉ domains) {body : List Char}
    (changed : stripDomains domains body ≠ body) :
    startsSegment (stripDomains domains body) = true := by
  have shape : stripDomains domains body = body ∨
      startsSegment (stripDomains domains body) = true := by
    refine stripDomains_induction named
      (P := fun body result => result = body ∨ startsSegment result = true) ?_ ?_ body
    · intro body _
      exact Or.inl rfl
    · intro body before result stripped ih
      obtain ⟨_, _, _, _, _, starts⟩ := exists_of_stripOnce?_eq_some stripped
      -- Either this was the last round, or a later one decides.
      rcases ih with rfl | done
      · exact Or.inr starts
      · exact Or.inr done
  exact shape.resolve_left changed

theorem isStartAnchored_stripDomains (plain : PlainDomains domains) {body : List Char}
    (start : isStartAnchored body = true) :
    isStartAnchored (stripDomains domains body) = true := by
  revert start
  refine stripDomains_induction plain.named
    (P := fun body result => isStartAnchored body = true → isStartAnchored result = true) ?_ ?_ body
  · intro body _ start
    exact start
  · intro body before result stripped ih start
    exact ih (stripOnce?_isStartAnchored plain start stripped)

/-! ### Stripping beside the other repairs -/

theorem stripDomains_anchorStart (plain : PlainDomains domains) (body : List Char) :
    stripDomains domains (anchorStart body) = anchorStart (stripDomains domains body) := by
  cases start : isStartAnchored body with
  | true =>
    rw [anchorStart_of_anchored start,
      anchorStart_of_anchored (isStartAnchored_stripDomains plain start)]
  | false =>
    revert start
    -- The rounds of both sides run in step, one anchor apart.
    refine stripDomains_induction plain.named (P := fun body result =>
      isStartAnchored body = false →
        stripDomains domains (anchorStart body) = anchorStart result) ?_ ?_ body
    · intro body none free
      rw [anchorStart_of_not_anchored free]
      exact stripDomains_of_none (by rw [stripOnce?_caret_cons plain free, none]; rfl)
    · intro body before result stripped ih free
      have kept := isStartAnchored_eq_false_of_isPrefix (stripOnce?_isPrefix stripped) free
      rw [← ih kept, anchorStart_of_not_anchored free, anchorStart_of_not_anchored kept]
      exact stripDomains_of_some plain.named (by
        rw [stripOnce?_caret_cons plain free, stripped]
        rfl)

theorem stripDomains_dropEndAnchors (named : "" ∉ domains) (body : List Char) :
    stripDomains domains (dropEndAnchors body) = dropEndAnchors (stripDomains domains body) := by
  have once := stripOnce?_dropEndAnchors domains body
  cases stripped : stripOnce? domains body with
  | none =>
    rw [stripDomains_of_none stripped, stripDomains_of_none (once.trans stripped)]
  | some before =>
    have changed : stripDomains domains body ≠ body := by
      rw [Ne, stripDomains_eq_self_iff named, stripped]
      exact Option.some_ne_none before
    -- What a round leaves has no end anchor, and the round drops those of the body itself.
    have free := isEndAnchored_of_startsSegment (startsSegment_stripDomains named changed)
    rw [dropEndAnchors_of_not_anchored free, stripDomains_of_some named stripped,
      stripDomains_of_some named (once.trans stripped)]

end ManifestLint.NodePattern
