import ManifestLint.Proofs.NodePattern.Domain
import Mathlib.Data.List.DropRight

/-!
# Atoms of a node pattern

Escapes are defined from the left: a backslash takes the character behind it with it. The repairs
look at a pattern from its end and count backslashes there. Both readings agree: an end anchor is a
last atom that is a bare dollar sign, dropping end anchors drops these atoms, and stripping domains
cuts between two atoms, never within an escape.
-/
namespace ManifestLint.NodePattern

/-- The atoms of a body, from the left: a backslash with the character it escapes, or a single
character. A backslash with nothing behind it is an atom by itself. -/
def atoms : List Char → List (List Char)
  | [] => []
  | [c] => [[c]]
  | c :: d :: rest => if c = '\\' then [c, d] :: atoms rest else [c] :: atoms (d :: rest)

/-- Whether a text, read from the left, ends with a backslash that escapes what comes next. -/
def isPending (text : List Char) : Bool :=
  text.foldl (fun pending c => !pending && c == '\\') false

@[simp] theorem flatten_atoms (body : List Char) : (atoms body).flatten = body := by
  fun_induction atoms body with
  | case1 => rfl
  | case2 c => rfl
  | case3 d rest ih => simp [ih]
  | case4 c d rest plain ih => simp [ih]

/-! ### Texts that end within an escape -/

theorem isPending_concat (text : List Char) (c : Char) :
    isPending (text ++ [c]) = (!isPending text && c == '\\') := by
  simp [isPending]

theorem isPending_of_getLast? {text : List Char} (last : text.getLast? ≠ some '\\') :
    isPending text = false := by
  induction text using List.reverseRecOn with
  | nil => rfl
  | append_singleton text c _ =>
    have other : c ≠ '\\' := by simpa using last
    simp [isPending_concat, other]

theorem exists_of_isPending {text : List Char} (pending : isPending text = true) :
    ∃ front, text = front ++ ['\\'] ∧ isPending front = false := by
  induction text using List.reverseRecOn with
  | nil => cases pending
  | append_singleton text c _ =>
    rw [isPending_concat] at pending
    exact ⟨text, by simp_all, by simp_all⟩

/-- The escapes that begin at the left are told by the length of the run of backslashes at the end:
each backslash of the run escapes the next, or is escaped by the one before. -/
theorem isPending_eq (text : List Char) :
    isPending text = ((text.reverse.takeWhile (· == '\\')).length % 2 == 1) := by
  induction text using List.reverseRecOn with
  | nil => rfl
  | append_singleton text c ih =>
    rw [isPending_concat, List.reverse_concat, List.takeWhile_cons, ih]
    by_cases escape : c = '\\'
    · -- One backslash more turns an even run into an odd one.
      subst escape
      simp only [beq_self_eq_true, if_true, List.length_cons, Bool.and_true]
      rcases Nat.mod_two_eq_zero_or_one (text.reverse.takeWhile (· == '\\')).length with even | odd
      · simp [even, Nat.add_mod]
      · simp [odd, Nat.add_mod]
    · simp [escape]

/-! ### Atoms of two texts one after the other -/

theorem isPending_escape_cons (d : Char) (rest : List Char) :
    isPending ('\\' :: d :: rest) = isPending rest := by
  simp [isPending]

theorem isPending_cons {c : Char} (plain : c ≠ '\\') (rest : List Char) :
    isPending (c :: rest) = isPending rest := by
  simp [isPending, beq_eq_false_iff_ne.mpr plain]

theorem atoms_cons {c : Char} (plain : c ≠ '\\') (rest : List Char) :
    atoms (c :: rest) = [c] :: atoms rest := by
  cases rest with
  | nil => rfl
  | cons d rest => rw [atoms, if_neg plain]

/-- A text that does not end within an escape is read by itself. -/
theorem atoms_append {front : List Char} (whole : isPending front = false) (back : List Char) :
    atoms (front ++ back) = atoms front ++ atoms back := by
  fun_induction atoms front with
  | case1 => rfl
  | case2 c =>
    have plain : c ≠ '\\' := by
      rintro rfl
      cases whole
    exact atoms_cons plain back
  | case3 d rest ih =>
    rw [isPending_escape_cons] at whole
    simp only [List.cons_append, atoms, if_true, ih whole]
  | case4 c d rest plain ih =>
    rw [isPending_cons plain] at whole
    rw [List.cons_append, atoms_cons plain, ih whole, List.cons_append]

theorem atoms_isPrefix {front body : List Char} (whole : isPending front = false)
    (begins : front <+: body) : atoms front <+: atoms body := by
  obtain ⟨back, rfl⟩ := begins
  rw [atoms_append whole]
  exact List.prefix_append _ _

/-! ### End anchors -/

theorem isEndAnchored_concat_dollar (front : List Char) :
    isEndAnchored (front ++ ['$']) = !isPending front := by
  rw [isEndAnchored, List.reverse_concat, anchoredReversed, isPending_eq]
  rcases Nat.mod_two_eq_zero_or_one (front.reverse.takeWhile (· == '\\')).length with even | odd
  · simp [even]
  · simp [odd]

theorem exists_of_isEndAnchored {body : List Char} (anchored : isEndAnchored body = true) :
    ∃ front, body = front ++ ['$'] ∧ isPending front = false := by
  have last : body.getLast? = some '$' := by
    refine Decidable.byContradiction fun other => ?_
    rw [isEndAnchored_eq_false_of_getLast? other] at anchored
    cases anchored
  obtain ⟨front, rfl⟩ := List.getLast?_eq_some_iff.mp last
  rw [isEndAnchored_concat_dollar] at anchored
  exact ⟨front, rfl, by simpa using anchored⟩

/-- A body is anchored at the end if its last atom is a dollar sign that nothing escapes. -/
theorem isEndAnchored_iff {body : List Char} :
    isEndAnchored body = true ↔ (atoms body).getLast? = some ['$'] := by
  constructor
  · intro anchored
    obtain ⟨front, rfl, whole⟩ := exists_of_isEndAnchored anchored
    rw [atoms_append whole, atoms, List.getLast?_concat]
  · intro last
    obtain ⟨before, split⟩ := List.getLast?_eq_some_iff.mp last
    have body_eq : body = before.flatten ++ ['$'] := by
      rw [← flatten_atoms body, split]
      simp
    rw [body_eq, isEndAnchored_concat_dollar, Bool.not_eq_true', ← Bool.not_eq_true]
    -- Otherwise the last atom would be the escaped dollar sign.
    intro pending
    obtain ⟨front, equal, whole⟩ := exists_of_isPending pending
    rw [body_eq, equal, List.append_assoc, atoms_append whole] at last
    simp [atoms] at last

theorem dropEndAnchors_concat_dollar {front : List Char} (whole : isPending front = false) :
    dropEndAnchors (front ++ ['$']) = dropEndAnchors front := by
  have anchored : isEndAnchored (front ++ ['$']) = true := by
    rw [isEndAnchored_concat_dollar, whole]
    rfl
  rw [isEndAnchored, List.reverse_concat] at anchored
  rw [dropEndAnchors, dropEndAnchors, List.reverse_concat, dropAnchorsReversed, if_pos anchored]

/-- Dropping end anchors drops the bare dollar signs at the end and no part of an escape. -/
theorem atoms_dropEndAnchors (body : List Char) :
    atoms (dropEndAnchors body) = (atoms body).rdropWhile (· == ['$']) := by
  induction length : body.length generalizing body with
  | zero =>
    rw [List.length_eq_zero_iff.mp length]
    rfl
  | succ n ih =>
    by_cases anchored : isEndAnchored body = true
    · obtain ⟨front, rfl, whole⟩ := exists_of_isEndAnchored anchored
      have shorter : front.length = n := by simpa using length
      rw [dropEndAnchors_concat_dollar whole, ih front shorter, atoms_append whole, atoms,
        List.rdropWhile_concat_pos _ _ _ (by simp)]
    · rw [dropEndAnchors_of_not_anchored (Bool.eq_false_iff.mpr anchored)]
      rw [isEndAnchored_iff] at anchored
      -- The last atom, if there is one, stays.
      symm
      rw [List.rdropWhile_eq_self_iff]
      intro some dollar
      apply anchored
      rw [List.getLast?_eq_some_getLast some, beq_iff_eq.mp dollar]

/-- Looking at a body from its end agrees with reading it from the left. It is anchored at the end
exactly if its last atom is a bare dollar sign, and dropping end anchors leaves the atoms up to the
bare dollar signs at the end: these atoms make up what is left, and it is read as them again. -/
theorem end_anchors_are_last_atoms (body : List Char) :
    (isEndAnchored body = true ↔ (atoms body).getLast? = some ['$']) ∧
      dropEndAnchors body = ((atoms body).rdropWhile (· == ['$'])).flatten ∧
      atoms (dropEndAnchors body) = (atoms body).rdropWhile (· == ['$']) := by
  have left := atoms_dropEndAnchors body
  refine ⟨isEndAnchored_iff, ?_, left⟩
  rw [← left, flatten_atoms]

/-- An escaped backslash leaves the dollar sign behind it bare, an escaped dollar sign stays. -/
example : atoms "\\\\\\$$".toList = [['\\', '\\'], ['\\', '$'], ['$']] ∧
    dropEndAnchors "\\\\\\$$".toList = "\\\\\\$".toList ∧
    dropEndAnchors "\\\\$$".toList = "\\\\".toList := by
  decide +kernel

theorem atoms_dropEndAnchors_isPrefix (body : List Char) :
    atoms (dropEndAnchors body) <+: atoms body := by
  rw [atoms_dropEndAnchors]
  exact List.rdropWhile_prefix _ _

/-! ### Domains -/

variable {domains : List String}

theorem isPending_of_startsSegment {before : List Char} (starts : startsSegment before = true) :
    isPending before = false := by
  apply isPending_of_getLast?
  rcases startsSegment_iff.mp starts with rfl | rfl | last
  · simp
  · simp
  · simp [last]

/-- A segment begins between two atoms, so a round of stripping keeps whole ones. -/
theorem atoms_stripOnce?_isPrefix {body before : List Char}
    (stripped : stripOnce? domains body = some before) : atoms before <+: atoms body := by
  obtain ⟨_, _, spelling, _, equal, starts⟩ := exists_of_stripOnce?_eq_some stripped
  have cut : atoms before <+: atoms (dropEndAnchors body) :=
    atoms_isPrefix (isPending_of_startsSegment starts) (equal ▸ List.prefix_append before spelling)
  exact cut.trans (atoms_dropEndAnchors_isPrefix body)

theorem atoms_stripDomains_isPrefix (named : "" ∉ domains) (body : List Char) :
    atoms (stripDomains domains body) <+: atoms body := by
  refine stripDomains_induction named (P := fun body result => atoms result <+: atoms body)
    ?_ ?_ body
  · intro body _
    exact List.prefix_refl _
  · intro body before result stripped ih
    exact ih.trans (atoms_stripOnce?_isPrefix stripped)

theorem atoms_anchorStart (body : List Char) :
    atoms (anchorStart body) =
      if isStartAnchored body then atoms body else ['^'] :: atoms body := by
  rw [anchorStart]
  split
  · rfl
  · exact atoms_cons (by decide) body

end ManifestLint.NodePattern
