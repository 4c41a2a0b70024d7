import ManifestLint.Proofs.FileTree.Grounded
import ManifestLint.Proofs.Wildcard.Literal
import ManifestLint.Wildcard.Walk

/-!
# Searching below a plain directory

The parts of a pattern that are plain text are followed as names are. So a pattern that is a plain
path and then two stars and one more part selects, of all that stands below the directory of that
path, what the last part selects by name.
-/
namespace ManifestLint.Wildcard

variable {t : FileTree}

/-! ### Plain parts -/

theorem parse?_of_plain {text : String} (plain : Plain text.toList) :
    parse? text = some (text.toList.map Atom.char) := by
  have whole := read?_append plain true 1 []
  rw [List.append_nil] at whole
  rw [parse?, ← String.length_toList, whole]
  simp [read?]

theorem literal?_chars (text : List Char) : literal? (text.map Atom.char) = some text := by
  induction text with
  | nil => rfl
  | cons c text ih =>
    rw [literal?] at ih ⊢
    simp [List.mapM_cons, ih]

theorem Part.parse?_of_plain {text : String} (plain : Plain text.toList) :
    Part.parse? text = some (.literal text) := by
  rw [Part.parse?, Wildcard.parse?_of_plain plain]
  simp [literal?_chars]

theorem mapM_parse?_of_plain {names : List String} (plain : ∀ name ∈ names, Plain name.toList) :
    names.mapM Part.parse? = some (names.map Part.literal) := by
  induction names with
  | nil => rfl
  | cons name names ih =>
    obtain ⟨first, later⟩ := List.forall_mem_cons.mp plain
    simp [List.mapM_cons, Part.parse?_of_plain first, ih later]

/-! ### Following names -/

theorem walk_literals (names : List String) (parts : List Part) (found : Found) :
    walk t (names.map Part.literal ++ parts) found =
      (names.foldlM (Found.follow? t) found).toList.flatMap (walk t parts) := by
  induction names generalizing found with
  | nil => simp
  | cons name names ih =>
    rw [List.map_cons, List.cons_append, walk, List.foldlM_cons]
    cases found.follow? t name with
    | none => rfl
    | some next => simp [ih]

theorem isDirectory_of_foldlM {names : List String} {place top : Place}
    (reached : names.foldlM t.step? place = some top) (directory : t.isDirectory top = true) :
    t.isDirectory place = true := by
  cases names with
  | nil =>
    cases reached
    exact directory
  | cons name names =>
    rw [List.foldlM_cons, Option.bind_eq_bind, Option.bind_eq_some_iff] at reached
    obtain ⟨next, stepped, -⟩ := reached
    rw [FileTree.step?] at stepped
    split at stepped
    · assumption
    · cases stepped

/-- Names that lead to a directory are followed to it, since a directory stands after each. -/
theorem foldlM_follow? {names : List String} {place top : Place} (path : String)
    (reached : names.foldlM t.step? place = some top) (directory : t.isDirectory top = true) :
    names.foldlM (Found.follow? t) ⟨path, place⟩ =
      some ⟨names.foldl Path.append path, top⟩ := by
  induction names generalizing path place with
  | nil =>
    cases reached
    rfl
  | cons name names ih =>
    rw [List.foldlM_cons, Option.bind_eq_bind, Option.bind_eq_some_iff] at reached
    obtain ⟨next, stepped, later⟩ := reached
    have here := isDirectory_of_foldlM later directory
    rw [FileTree.isDirectory, beq_iff_eq] at here
    have followed : Found.follow? t ⟨path, place⟩ name = some ⟨Path.append path name, next⟩ := by
      simp [Found.follow?, stepped, here]
    rw [List.foldlM_cons, followed]
    exact ih _ later

/-! ### Searching everything below -/

theorem walk_directories_wild (atoms : List Atom) (found : Found) :
    walk t [.directories, .wild atoms] found =
      (found.below t).filter fun below => isMatch atoms below.name := by
  simp [walk, Part.selects, List.flatMap_singleton']

end ManifestLint.Wildcard
