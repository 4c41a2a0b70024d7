import ManifestLint.NodePattern.Basic

/-!
# Anchors of a node pattern

Dropping end anchors leaves a beginning of the body that has none, and changes nothing where there
is none. An anchor at the start does not interfere: it is no backslash, so it never escapes a dollar
sign behind it.
-/
namespace ManifestLint.NodePattern

/-! ### Anchors at the start -/

theorem isStartAnchored_iff {body : List Char} :
    isStartAnchored body = true ↔ ∃ rest, body = '^' :: rest := by
  cases body <;> simp [isStartAnchored]

theorem anchorStart_of_anchored {body : List Char} (start : isStartAnchored body = true) :
    anchorStart body = body := by
  rw [anchorStart, if_pos start]

theorem anchorStart_of_not_anchored {body : List Char} (free : isStartAnchored body = false) :
    anchorStart body = '^' :: body := by
  rw [anchorStart, free, if_neg Bool.false_ne_true]

@[simp] theorem isStartAnchored_anchorStart (body : List Char) :
    isStartAnchored (anchorStart body) = true := by
  by_cases start : isStartAnchored body = true
  · rw [anchorStart_of_anchored start, start]
  · rw [anchorStart_of_not_anchored (Bool.eq_false_iff.mpr start)]
    rfl

theorem isStartAnchored_eq_false_of_isPrefix {part body : List Char} (begins : part <+: body)
    (free : isStartAnchored body = false) : isStartAnchored part = false := by
  obtain ⟨rest, rfl⟩ := begins
  cases part with
  | nil => rfl
  | cons c part => exact free

/-! ### Anchors at the end, in bodies read from their end -/

theorem anchoredReversed_append_caret {text : List Char} (nonempty : text ≠ []) :
    anchoredReversed (text ++ ['^']) = anchoredReversed text := by
  cases text with
  | nil => exact absurd rfl nonempty
  | cons c rest =>
    by_cases dollar : c = '$'
    · subst dollar
      have run : (rest ++ ['^']).takeWhile (· == '\\') = rest.takeWhile (· == '\\') := by
        rw [List.takeWhile_append]
        split
        next whole =>
          -- The run of backslashes is all of `rest`, and the caret ends it.
          have all : rest.takeWhile (· == '\\') = rest :=
            (List.takeWhile_prefix _).eq_of_length whole
          simp [all]
        · rfl
      simp only [List.cons_append, anchoredReversed, run]
    · rw [List.cons_append, anchoredReversed.eq_2, anchoredReversed.eq_2]
      · intro tail equal
        exact dollar (List.cons.inj equal).1
      · intro tail equal
        exact dollar (List.cons.inj equal).1

theorem dropAnchorsReversed_append_caret (text : List Char) :
    dropAnchorsReversed (text ++ ['^']) = dropAnchorsReversed text ++ ['^'] := by
  induction text with
  | nil => rfl
  | cons c rest ih =>
    -- Read from its end, the caret comes last and decides nothing about a dollar sign.
    have anchored := anchoredReversed_append_caret (List.cons_ne_nil c rest)
    rw [List.cons_append] at anchored
    rw [List.cons_append, dropAnchorsReversed, dropAnchorsReversed, anchored, ih]
    split <;> rfl

theorem dropAnchorsReversed_suffix (text : List Char) : dropAnchorsReversed text <:+ text := by
  induction text with
  | nil => exact List.suffix_refl []
  | cons c rest ih =>
    rw [dropAnchorsReversed]
    split
    · exact ih.trans (List.suffix_cons c rest)
    · exact List.suffix_refl _

theorem anchoredReversed_dropAnchorsReversed (text : List Char) :
    anchoredReversed (dropAnchorsReversed text) = false := by
  induction text with
  | nil => rfl
  | cons c rest ih =>
    rw [dropAnchorsReversed]
    split
    · exact ih
    next free => exact Bool.eq_false_iff.mpr free

theorem dropAnchorsReversed_of_not_anchored {text : List Char}
    (free : anchoredReversed text = false) : dropAnchorsReversed text = text := by
  cases text with
  | nil => rfl
  | cons c rest => rw [dropAnchorsReversed, free, if_neg Bool.false_ne_true]

/-! ### Anchors at the end -/

/-- Dropping end anchors drops all of them. -/
@[simp] theorem isEndAnchored_dropEndAnchors (body : List Char) :
    isEndAnchored (dropEndAnchors body) = false := by
  rw [isEndAnchored, dropEndAnchors, List.reverse_reverse]
  exact anchoredReversed_dropAnchorsReversed _

theorem dropEndAnchors_of_not_anchored {body : List Char} (free : isEndAnchored body = false) :
    dropEndAnchors body = body := by
  rw [dropEndAnchors, dropAnchorsReversed_of_not_anchored free, List.reverse_reverse]

@[simp] theorem dropEndAnchors_idempotent (body : List Char) :
    dropEndAnchors (dropEndAnchors body) = dropEndAnchors body :=
  dropEndAnchors_of_not_anchored (isEndAnchored_dropEndAnchors body)

/-- What is left begins the body. -/
theorem dropEndAnchors_isPrefix (body : List Char) : dropEndAnchors body <+: body := by
  have suffix := dropAnchorsReversed_suffix body.reverse
  rw [dropEndAnchors, ← List.reverse_suffix, List.reverse_reverse]
  exact suffix

/-- Only a dollar sign anchors the end. -/
theorem isEndAnchored_eq_false_of_getLast? {body : List Char} (last : body.getLast? ≠ some '$') :
    isEndAnchored body = false := by
  rw [isEndAnchored, anchoredReversed.eq_2]
  intro rest equal
  apply last
  rw [List.getLast?_eq_head?_reverse, equal]
  rfl

theorem dropEndAnchors_caret_cons (body : List Char) :
    dropEndAnchors ('^' :: body) = '^' :: dropEndAnchors body := by
  rw [dropEndAnchors, List.reverse_cons, dropAnchorsReversed_append_caret, List.reverse_append]
  rfl

/-- The two kinds of anchor are independent of each other. -/
theorem dropEndAnchors_anchorStart (body : List Char) :
    dropEndAnchors (anchorStart body) = anchorStart (dropEndAnchors body) := by
  cases start : isStartAnchored body with
  | true =>
    obtain ⟨rest, rfl⟩ := isStartAnchored_iff.mp start
    rw [anchorStart_of_anchored start, dropEndAnchors_caret_cons]
    rfl
  | false =>
    -- Dropping at the end brings no anchor to the start.
    have kept := isStartAnchored_eq_false_of_isPrefix (dropEndAnchors_isPrefix body) start
    rw [anchorStart_of_not_anchored start, anchorStart_of_not_anchored kept,
      dropEndAnchors_caret_cons]

end ManifestLint.NodePattern
