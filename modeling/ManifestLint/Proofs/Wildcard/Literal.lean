import Mathlib.Data.List.Basic
import ManifestLint.Wildcard.Basic

/-!
# Plain text in patterns

A character that begins no wildcard stands for itself. So a plain text in a pattern is read as the
characters it is made of, and takes the same text off what is matched.
-/
namespace ManifestLint.Wildcard

/-- A text in which no character begins a wildcard. -/
def Plain (text : List Char) : Prop := ∀ c ∈ text, c ≠ '*' ∧ c ≠ '?' ∧ c ≠ '['

instance (text : List Char) : Decidable (Plain text) := List.decidableBAll _ text

theorem plain_cons {c : Char} {text : List Char} :
    Plain (c :: text) ↔ (c ≠ '*' ∧ c ≠ '?' ∧ c ≠ '[') ∧ Plain text := List.forall_mem_cons

theorem plain_append {front back : List Char} :
    Plain (front ++ back) ↔ Plain front ∧ Plain back := List.forall_mem_append

/-! ### Reading -/

theorem read?_cons {c : Char} (plain : c ≠ '*' ∧ c ≠ '?' ∧ c ≠ '[') (atStart : Bool) (rounds : Nat)
    (rest : List Char) :
    read? atStart (rounds + 1) (c :: rest) = (read? (c == '/') rounds rest).map (.char c :: ·) := by
  obtain ⟨noStar, noMark, noBracket⟩ := plain
  -- The other ways to read a first character are ruled out one by one.
  rw [read?]
  · exact fun _ first => absurd first noStar
  · exact fun first => absurd first noStar
  · exact fun first => absurd first noMark
  · exact fun first => absurd first noBracket

/-- A plain text is read character by character. Behind its last slash a directory may begin. -/
theorem read?_append {text : List Char} (plain : Plain text) (atStart : Bool) (rounds : Nat)
    (rest : List Char) :
    read? atStart (text.length + rounds) (text ++ rest) =
      (read? (text.foldl (fun _ c => c == '/') atStart) rounds rest).map
        (text.map Atom.char ++ ·) := by
  induction text generalizing atStart with
  | nil => simp
  | cons c text ih =>
    obtain ⟨first, later⟩ := plain_cons.mp plain
    rw [List.length_cons, Nat.add_right_comm, List.cons_append, read?_cons first, ih later,
      Option.map_map]
    rfl

/-! ### Matching -/

theorem isMatch_append (text : List Char) (atoms : List Atom) (input : List Char) :
    isMatch (text.map Atom.char ++ atoms) input = true ↔
      ∃ rest, input = text ++ rest ∧ isMatch atoms rest = true := by
  induction text generalizing input with
  | nil => simp
  | cons c text ih =>
    have single : Atom.char c ≠ .anyRun ∧ Atom.char c ≠ .anyDirectories := by simp
    rw [List.map_cons, List.cons_append]
    cases input with
    | nil => simp [isMatch_cons_nil _ _ single]
    | cons d input =>
      rw [isMatch_cons _ _ _ _ single, Bool.and_eq_true, ih, Atom.holds, beq_iff_eq]
      constructor
      · rintro ⟨rfl, rest, rfl, holds⟩
        exact ⟨rest, rfl, holds⟩
      · rintro ⟨rest, whole, holds⟩
        obtain ⟨same, tail⟩ := List.cons.inj whole
        exact ⟨same, rest, tail, holds⟩

theorem isMatch_chars (text input : List Char) :
    isMatch (text.map Atom.char) input = true ↔ input = text := by
  have whole := isMatch_append text [] input
  rw [List.append_nil] at whole
  rw [whole]
  constructor
  · rintro ⟨rest, rfl, holds⟩
    rw [isMatch_nil, List.isEmpty_iff] at holds
    rw [holds, List.append_nil]
  · rintro rfl
    exact ⟨[], (List.append_nil _).symm, rfl⟩

/-- Any characters in front of a plain text: what ends in it is matched. -/
theorem isMatch_anyRun_chars (text input : List Char) :
    isMatch (.anyRun :: text.map Atom.char) input = true ↔ text <:+ input := by
  rw [isMatch_anyRun, List.any_eq_true]
  constructor
  · rintro ⟨rest, member, holds⟩
    obtain ⟨before, rfl⟩ := mem_suffixes.mp member
    rw [(isMatch_chars text rest).mp holds]
    exact List.suffix_append _ _
  · rintro ⟨before, rfl⟩
    exact ⟨text, mem_suffixes.mpr ⟨before, rfl⟩, (isMatch_chars text text).mpr rfl⟩

theorem mem_afterSlashes {text rest : List Char} :
    rest ∈ afterSlashes text ↔ ∃ before, text = before ++ '/' :: rest := by
  induction text with
  | nil => simp [afterSlashes]
  | cons c text ih =>
    have later : rest ∈ afterSlashes text ↔ ∃ before, c :: text = c :: before ++ '/' :: rest := by
      simp [ih]
    rw [afterSlashes]
    split
    next slash =>
      rw [List.mem_cons, later]
      constructor
      · rintro (rfl | ⟨before, whole⟩)
        · exact ⟨[], by rw [slash]; rfl⟩
        · exact ⟨_, whole⟩
      · rintro ⟨before, whole⟩
        cases before with
        | nil => exact .inl (List.cons.inj whole).2.symm
        | cons d before => exact .inr ⟨before, by rw [whole, ← (List.cons.inj whole).1]⟩
    next noSlash =>
      rw [later]
      constructor
      · rintro ⟨before, whole⟩
        exact ⟨_, whole⟩
      · rintro ⟨before, whole⟩
        cases before with
        | nil => exact absurd (List.cons.inj whole).1 noSlash
        | cons d before => exact ⟨before, by rw [whole, ← (List.cons.inj whole).1]⟩

theorem isMatch_anyDirectories_iff (atoms : List Atom) (input : List Char) :
    isMatch (.anyDirectories :: atoms) input = true ↔
      isMatch atoms input = true ∨
        (∃ before rest, input = before ++ '/' :: rest ∧ isMatch atoms rest = true) ∨
        isMatch atoms [] = true := by
  simp only [isMatch_anyDirectories, Bool.or_eq_true, List.any_append, List.any_eq_true,
    mem_afterSlashes, List.any_cons, List.any_nil, Bool.or_false]
  refine or_congr_right (or_congr_left ⟨?_, ?_⟩)
  · rintro ⟨rest, ⟨before, whole⟩, holds⟩
    exact ⟨before, rest, whole, holds⟩
  · rintro ⟨before, rest, whole, holds⟩
    exact ⟨rest, ⟨before, whole⟩, holds⟩

/-- Two stars at the end match all that is left. -/
theorem isMatch_directories (input : List Char) : isMatch [.anyDirectories] input = true :=
  (isMatch_anyDirectories_iff [] input).mpr (.inr (.inr rfl))

end ManifestLint.Wildcard
