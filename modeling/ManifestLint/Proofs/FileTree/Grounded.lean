import Mathlib.Data.List.Induction
import ManifestLint.FileTree
import ManifestLint.Proofs.Path.Segments

/-!
# Trees that can be walked

In a file system nothing stands twice in one place, and whatever stands somewhere stands in a
directory. Then a path made of a root and the names behind it leads to where it says.
-/
namespace ManifestLint.FileTree

/-- Nothing stands in two entries, and every entry has names and stands in a directory. -/
structure Grounded (t : FileTree) : Prop where
  distinct : (t.entries.map Prod.fst).Nodup
  named : ∀ entry ∈ t.entries, entry.1 ≠ [] ∧ ∀ name ∈ entry.1, Path.IsName name
  parent : ∀ entry ∈ t.entries, t.isDirectory entry.1.dropLast = true

variable {t : FileTree} {top place : Place}

theorem node?_ne_none_iff (below : place ≠ []) :
    t.node? place ≠ none ↔ ∃ node, (place, node) ∈ t.entries := by
  rw [node?, if_neg (by simpa using below), ne_eq, List.lookup_eq_none_iff]
  simp

/-! ### Paths step by step -/

/-- A path that goes on goes on from where it has led. -/
theorem resolve?_append {base name : String} (absolute : Path.isAbsolute base = true)
    (noSlash : '/' ∉ name.toList) (resolved : t.resolve? base = some place) :
    t.resolve? (Path.append base name) = t.step? place name := by
  obtain ⟨front, cut, whole⟩ := Path.segments_append absolute noSlash
  have reached : front.foldlM t.step? [] = some place := by
    rcases whole with whole | whole
    · rwa [resolve?, whole] at resolved
    · -- The empty segment at the end is no step.
      rw [resolve?, whole, List.foldlM_append, Option.bind_eq_bind, Option.bind_eq_some_iff]
        at resolved
      obtain ⟨here, reached, last⟩ := resolved
      simp [step?, Place.step, Path.isVoid] at last
      rw [reached, last.2]
  rw [resolve?, cut, List.foldlM_append, reached]
  simp

theorem resolve?_foldl_append {base : String} {names : List String} {next : Place}
    (absolute : Path.isAbsolute base = true) (noSlash : ∀ name ∈ names, '/' ∉ name.toList)
    (resolved : t.resolve? base = some place) (stepped : names.foldlM t.step? place = some next) :
    t.resolve? (names.foldl Path.append base) = some next := by
  induction names generalizing base place with
  | nil => rwa [← stepped]
  | cons name names ih =>
    obtain ⟨first, later⟩ := List.forall_mem_cons.mp noSlash
    rw [List.foldlM_cons, Option.bind_eq_bind, Option.bind_eq_some_iff] at stepped
    obtain ⟨middle, step, rest⟩ := stepped
    exact ih (Path.isAbsolute_append absolute first) later
      ((resolve?_append absolute first resolved).trans step) rest

theorem step?_of_isName {name : String} (isName : Path.IsName name)
    (directory : t.isDirectory place = true) : t.step? place name = some (place ++ [name]) := by
  have noStep : Path.isVoid name = false := by
    simp [Path.isVoid, isName.some, isName.noDot]
  have noParent : (name == "..") = false := beq_eq_false_iff_ne.mpr isName.noParent
  simp [step?, Place.step, directory, noStep, noParent]

/-- What stands below a directory is reached from it by the names on the way. -/
theorem Grounded.foldlM_step? (grounded : t.Grounded) {names : List String}
    (present : names ≠ [] → t.node? (top ++ names) ≠ none) :
    (∀ name ∈ names, Path.IsName name) ∧ names.foldlM t.step? top = some (top ++ names) := by
  induction names using List.reverseRecOn with
  | nil => exact ⟨by simp, by simp⟩
  | append_singleton init last ih =>
    obtain ⟨node, entry⟩ := (node?_ne_none_iff (by simp)).mp (present (by simp))
    have isNames := (grounded.named _ entry).2
    have parent := grounded.parent _ entry
    rw [← List.append_assoc, List.dropLast_concat] at parent
    -- The directory that holds the last one stands below the first directory, or is it.
    obtain ⟨before, reached⟩ := ih fun _ missing => by
      simp [isDirectory, missing] at parent
    have isLast := isNames last (by simp)
    refine ⟨?_, ?_⟩
    · simpa [or_imp, forall_and, isLast] using before
    · rw [List.foldlM_append, reached]
      simpa using step?_of_isName isLast parent

/-! ### What stands below a directory -/

theorem mem_below_iff {entry : Place × Node} :
    entry ∈ t.below top ↔ entry ∈ t.entries ∧ top <+: entry.1 ∧ entry.1 ≠ top := by
  simp [below, List.mem_mergeSort, List.mem_filter]

theorem Grounded.nodup_below (grounded : t.Grounded) (top : Place) :
    ((t.below top).map Prod.fst).Nodup := by
  have sorted := List.mergeSort_perm
    (t.entries.filter fun entry => top.isPrefixOf entry.1 && entry.1 != top)
    fun a b => placeLE a.1 b.1
  exact (sorted.map Prod.fst).nodup_iff.mpr
    (grounded.distinct.sublist (List.filter_sublist.map Prod.fst))

end ManifestLint.FileTree
