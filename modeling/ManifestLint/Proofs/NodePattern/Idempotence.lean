import ManifestLint.Proofs.NodePattern.Normalize

/-!
# Making a repair twice

Made on a body, every repair is idempotent. A repair of a text reads the slashes around it anew each
time, so it is idempotent as long as it leaves them as it found them. Only dropping end anchors can
do otherwise: dollar signs behind a slash hide that the text stands between slashes, and without
them the next repair reaches a body that the first one did not see.
-/
namespace ManifestLint.NodePattern

/-- A text that stands between slashes but for the dollar signs behind them, with a body that is
anchored at the end itself. -/
def HidesAnchor (text : List Char) : Prop :=
  ∃ body count, isEndAnchored body = true ∧
    text = '/' :: (body ++ '/' :: List.replicate (count + 1) '$')

variable {domains : List String}

theorem applyBody_idempotent (named : "" ∉ domains) (repair : Repair) (body : List Char) :
    repair.applyBody domains (repair.applyBody domains body) = repair.applyBody domains body := by
  cases repair with
  | anchorStart => exact anchorStart_of_anchored (isStartAnchored_anchorStart body)
  | dropEndAnchor => exact dropEndAnchors_idempotent body
  | stripDomain => exact stripDomains_of_none (stripOnce?_stripDomains named body)

/-! ### Texts whose slashes are read the same twice -/

theorem split_of_getLast? {text : List Char} (last : text.getLast? ≠ some '/') :
    split text = (false, text) := by
  unfold split
  split
  next rest =>
    cases rest with
    | nil => rfl
    | cons c rest =>
      rw [List.getLast?_cons_cons] at last
      rw [if_neg last]
  · rfl

theorem apply_of_bare {text : String} (bare : (split text.toList).1 = false) (repair : Repair) :
    (repair.apply domains text).toList = repair.applyBody domains text.toList := by
  rw [apply_eq, String.toList_ofList, bare, split_of_not_delimited bare]
  rfl

theorem apply_apply_of_split_eq (named : "" ∉ domains) (repair : Repair) {text : String}
    (same : (split (repair.apply domains text).toList).1 = (split text.toList).1) :
    repair.apply domains (repair.apply domains text) = repair.apply domains text := by
  -- What stands between the slashes is then the body that the first repair has left.
  have body : (split (repair.apply domains text).toList).2 =
      repair.applyBody domains (split text.toList).2 := by
    apply join_injective (split text.toList).1
    rw [← same, join_split, same, apply_eq, String.toList_ofList]
  rw [apply_eq_self_iff, body]
  exact applyBody_idempotent named repair _

theorem split_apply_of_delimited {text : String} (delimited : (split text.toList).1 = true)
    (repair : Repair) : (split (repair.apply domains text).toList).1 = true := by
  rw [apply_eq, String.toList_ofList, delimited, split_join_of_framed (Or.inl rfl)]

/-- No other repair makes a text end with a slash that did not stand between slashes before. -/
theorem split_apply_of_bare (named : "" ∉ domains) {repair : Repair}
    (other : repair ≠ .dropEndAnchor) {text : String} (bare : (split text.toList).1 = false) :
    (split (repair.apply domains text).toList).1 = false := by
  rw [apply_of_bare bare repair]
  cases repair with
  | anchorStart =>
    have start := isStartAnchored_anchorStart text.toList
    exact congrArg Prod.fst (split_join start false)
  | dropEndAnchor => exact absurd rfl other
  | stripDomain =>
    rw [Repair.applyBody]
    by_cases changed : stripDomains domains text.toList = text.toList
    · rw [changed, bare]
    · -- A stripped text ends with a dot, if it is more than an anchor.
      have last : (stripDomains domains text.toList).getLast? ≠ some '/' := by
        rcases startsSegment_iff.mp (startsSegment_stripDomains named changed) with
          empty | caret | dot
        · simp [empty]
        · simp [caret]
        · simp [dot]
      rw [split_of_getLast? last]

/-! ### Dollar signs behind a slash -/

theorem dropEndAnchors_eq_self_iff {body : List Char} :
    dropEndAnchors body = body ↔ isEndAnchored body = false := by
  constructor
  · intro same
    rw [← same]
    exact isEndAnchored_dropEndAnchors body
  · exact dropEndAnchors_of_not_anchored

theorem exists_dollars (body : List Char) :
    ∃ count, body = dropEndAnchors body ++ List.replicate count '$' := by
  induction body using List.reverseRecOn with
  | nil => exact ⟨0, rfl⟩
  | append_singleton front c ih =>
    by_cases anchored : isEndAnchored (front ++ [c]) = true
    · obtain ⟨other, equal, whole⟩ := exists_of_isEndAnchored anchored
      obtain ⟨rfl, last⟩ := List.append_inj' equal rfl
      obtain ⟨count, dollars⟩ := ih
      refine ⟨count + 1, ?_⟩
      rw [last, dropEndAnchors_concat_dollar whole, List.replicate_succ', ← List.append_assoc,
        ← dollars]
    · rw [dropEndAnchors_of_not_anchored (Bool.eq_false_iff.mpr anchored)]
      exact ⟨0, by simp⟩

theorem dropEndAnchors_append_dollars {front : List Char} (last : front.getLast? = some '/')
    (count : Nat) : dropEndAnchors (front ++ List.replicate count '$') = front := by
  induction count with
  | zero =>
    rw [List.replicate_zero, List.append_nil]
    exact dropEndAnchors_of_not_anchored (isEndAnchored_eq_false_of_getLast? (by simp [last]))
  | succ count ih =>
    -- Neither the slash nor another dollar sign escapes the last one.
    have whole : isPending (front ++ List.replicate count '$') = false := by
      apply isPending_of_getLast?
      cases count with
      | zero => simp [last]
      | succ count => simp [List.replicate_succ']
    rw [List.replicate_succ', ← List.append_assoc, dropEndAnchors_concat_dollar whole, ih]

theorem hidesAnchor_of_uncovered {text : List Char} (bare : (split text).1 = false)
    (uncovered : (split (dropEndAnchors text)).1 = true)
    (anchored : isEndAnchored (split (dropEndAnchors text)).2 = true) : HidesAnchor text := by
  obtain ⟨count, dollars⟩ := exists_dollars text
  cases count with
  | zero =>
    -- Nothing was dropped, so nothing was uncovered.
    rw [List.replicate_zero, List.append_nil] at dollars
    rw [← dollars, bare] at uncovered
    cases uncovered
  | succ count =>
    have slashes := join_split (dropEndAnchors text)
    rw [uncovered, join, if_pos rfl] at slashes
    refine ⟨(split (dropEndAnchors text)).2, count, anchored, ?_⟩
    calc text = dropEndAnchors text ++ List.replicate (count + 1) '$' := dollars
      _ = '/' :: ((split (dropEndAnchors text)).2 ++ ['/']) ++ List.replicate (count + 1) '$' := by
        rw [slashes]
      _ = _ := by simp

theorem hidesAnchor_iff {text : List Char} :
    HidesAnchor text ↔ (split text).1 = false ∧ (split (dropEndAnchors text)).1 = true ∧
      isEndAnchored (split (dropEndAnchors text)).2 = true := by
  constructor
  · rintro ⟨body, count, anchored, rfl⟩
    have front : '/' :: (body ++ '/' :: List.replicate (count + 1) '$') =
        join true body ++ List.replicate (count + 1) '$' := by simp [join]
    have last : (join true body).getLast? = some '/' := by
      rw [join, if_pos rfl, ← List.cons_append, List.getLast?_concat]
    have bare : (split (join true body ++ List.replicate (count + 1) '$')).1 = false := by
      rw [split_of_getLast?]
      simp [List.replicate_succ', ← List.append_assoc]
    rw [front, dropEndAnchors_append_dollars last, split_join_of_framed (Or.inl rfl)]
    exact ⟨bare, rfl, anchored⟩
  · rintro ⟨bare, uncovered, anchored⟩
    exact hidesAnchor_of_uncovered bare uncovered anchored

instance (text : List Char) : Decidable (HidesAnchor text) :=
  decidable_of_iff _ hidesAnchor_iff.symm

/-! ### Idempotence -/

theorem dropEndAnchor_twice_iff (text : String) :
    Repair.dropEndAnchor.apply domains (Repair.dropEndAnchor.apply domains text) =
        Repair.dropEndAnchor.apply domains text ↔ ¬ HidesAnchor text.toList := by
  rw [apply_eq_self_iff, Repair.applyBody, dropEndAnchors_eq_self_iff, hidesAnchor_iff]
  cases bare : (split text.toList).1 with
  | true =>
    -- Slashes that were seen are seen again, and the body between them has lost its anchors.
    rw [apply_eq, String.toList_ofList, bare, split_join_of_framed (Or.inl rfl)]
    simp [Repair.applyBody]
  | false =>
    rw [apply_of_bare bare, Repair.applyBody]
    cases uncovered : (split (dropEndAnchors text.toList)).1 with
    | true => simp
    | false =>
      rw [split_of_not_delimited uncovered]
      simp

/-- A repair that has been made changes nothing when it is made again, unless dropping end anchors
has uncovered slashes around a body that is anchored as well. -/
theorem apply_twice_iff (named : "" ∉ domains) (repair : Repair) (text : String) :
    repair.apply domains (repair.apply domains text) = repair.apply domains text ↔
      (repair = .dropEndAnchor → ¬ HidesAnchor text.toList) := by
  by_cases drops : repair = .dropEndAnchor
  · subst drops
    simpa using dropEndAnchor_twice_iff text
  · have same : (split (repair.apply domains text).toList).1 = (split text.toList).1 := by
      cases bare : (split text.toList).1 with
      | true => exact split_apply_of_delimited bare repair
      | false => exact split_apply_of_bare named drops bare
    exact iff_of_true (apply_apply_of_split_eq named repair same) fun is => absurd is drops

/-- Slashes that are uncovered around a body without an anchor do no harm, and a text with a single
slash is stripped once and for all. -/
theorem apply_twice_iff_of_single_slashes :
    Repair.dropEndAnchor.apply ["wmnet"] "/db/$" = "/db/" ∧
      Repair.dropEndAnchor.apply ["wmnet"] "/db/" = "/db/" ∧
      Repair.stripDomain.apply ["wmnet"] "/db.wmnet$" = "/db." ∧
      Repair.stripDomain.apply ["wmnet"] "/db." = "/db." := by
  have named : "" ∉ ["wmnet"] := by decide
  have dropped : Repair.dropEndAnchor.apply ["wmnet"] "/db/$" = "/db/" := by decide +kernel
  have stripped : Repair.stripDomain.apply ["wmnet"] "/db.wmnet$" = "/db." := by decide +kernel
  have drops := (apply_twice_iff named .dropEndAnchor "/db/$").mpr fun _ => by decide +kernel
  have strips := (apply_twice_iff named .stripDomain "/db.wmnet$").mpr fun is => by cases is
  rw [dropped] at drops
  rw [stripped] at strips
  exact ⟨dropped, drops, stripped, strips⟩

/-- Dropping the end anchor of this text uncovers another one. -/
theorem dropEndAnchor_not_idempotent :
    "" ∉ ["wmnet"] ∧ Repair.dropEndAnchor.apply ["wmnet"] "/a$/$" = "/a$/" ∧
      Repair.dropEndAnchor.apply ["wmnet"] (Repair.dropEndAnchor.apply ["wmnet"] "/a$/$") ≠
        Repair.dropEndAnchor.apply ["wmnet"] "/a$/$" := by
  decide +kernel

end ManifestLint.NodePattern
