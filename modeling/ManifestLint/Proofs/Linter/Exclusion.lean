import ManifestLint.Linter.Run
import ManifestLint.Proofs.Path.Segments
import ManifestLint.Proofs.Wildcard.Literal

/-!
# Excluded directories

The two tests of an exclude pattern agree on a pattern that names a directory: both ask for the name
between two slashes. They ask it of the whole path, so a directory of that name above the root
excludes everything below the root.
-/
namespace ManifestLint

open Wildcard

theorem dropStarPairs_append {text : List Char} (plain : Plain text) (rest : List Char) :
    dropStarPairs (text ++ rest) = text ++ dropStarPairs rest := by
  induction text with
  | nil => rfl
  | cons c text ih =>
    obtain ⟨first, later⟩ := plain_cons.mp plain
    rw [List.cons_append, dropStarPairs, ih later, List.cons_append]
    exact fun _ star => absurd star first.1

/-- The pattern of everything in a directory of a name, wherever the directory is. -/
def directoryPattern (name : String) : String := s!"**/{name}/**"

example : ({} : Scope).exclude = [directoryPattern "vendor"] := by decide

theorem toList_directoryPattern (name : String) : (directoryPattern name).toList =
    '*' :: '*' :: '/' :: ((name.toList ++ ['/']) ++ ['*', '*']) := by
  simp [directoryPattern, toString]

section Name

variable {name : String} (plain : Plain name.toList)
include plain

theorem plain_named_slash : Plain (name.toList ++ ['/']) :=
  plain_append.mpr ⟨plain, by simp [Plain]⟩

theorem parse?_directoryPattern : parse? (directoryPattern name) =
    some (.anyDirectories :: ((name.toList ++ ['/']).map Atom.char ++ [.anyDirectories])) := by
  have fuel : (directoryPattern name).length + 1 = (name.toList ++ ['/']).length + 5 + 1 := by
    rw [← String.length_toList, toList_directoryPattern]
    simp
  -- The name ends in a slash, so two stars may stand behind it.
  rw [parse?, fuel, toList_directoryPattern, read?]
  simp only [Bool.not_true, Bool.false_eq_true, if_false]
  rw [read?_append (plain_named_slash plain), List.foldl_append]
  rfl

theorem dropStarPairs_directoryPattern :
    dropStarPairs (directoryPattern name).toList = '/' :: (name.toList ++ ['/']) := by
  have slash : Plain ('/' :: (name.toList ++ ['/'])) :=
    plain_cons.mpr ⟨by simp, plain_named_slash plain⟩
  rw [toList_directoryPattern, dropStarPairs, ← List.cons_append, dropStarPairs_append slash]
  exact List.append_nil _

/-- Both tests of such a pattern ask for its name between two slashes. -/
theorem excludes_directoryPattern_iff {path : String} (absolute : Path.isAbsolute path = true)
    (noSlash : '/' ∉ name.toList) (some : name ≠ "") :
    excludes path (directoryPattern name) = true ↔
      ∃ before after, path.toList = before ++ '/' :: (name.toList ++ '/' :: after) := by
  have between (input : List Char) :
      isMatch ((name.toList ++ ['/']).map Atom.char ++ [.anyDirectories]) input = true ↔
        ∃ after, input = name.toList ++ '/' :: after := by
    simp [isMatch_append, isMatch_directories, -List.map_append]
  have matched : isMatch (.anyDirectories ::
      ((name.toList ++ ['/']).map Atom.char ++ [.anyDirectories])) path.toList = true ↔
        ∃ before after, path.toList = before ++ '/' :: (name.toList ++ '/' :: after) := by
    simp only [isMatch_anyDirectories_iff, between]
    constructor
    · rintro (⟨after, whole⟩ | ⟨before, rest, whole, after, rfl⟩ | ⟨after, none⟩)
      · -- A path that starts at the root does not start with the name.
        obtain ⟨tail, chars⟩ := Path.exists_of_isAbsolute absolute
        obtain ⟨c, letters, named⟩ :=
          List.exists_cons_of_ne_nil (mt String.toList_eq_nil_iff.mp some)
        rw [named, chars] at whole
        rw [named, (List.cons.inj whole).1] at noSlash
        exact absurd List.mem_cons_self noSlash
      · exact ⟨before, after, whole⟩
      · simp at none
    · rintro ⟨before, after, whole⟩
      exact .inr (.inl ⟨before, _, whole, after, rfl⟩)
  have occurs : occursIn ('/' :: (name.toList ++ ['/'])) path.toList = true ↔
        ∃ before after, path.toList = before ++ '/' :: (name.toList ++ '/' :: after) := by
    simp [occursIn_iff]
  rw [excludes, parse?_directoryPattern plain, dropStarPairs_directoryPattern plain]
  simp only [Option.any_some, List.isEmpty_cons, Bool.not_false, Bool.true_and, Bool.or_eq_true,
    matched, occurs, or_self]

end Name

namespace Linter

/-- A file below the root is left out exactly if a directory on the way to it has the name, be it one
of the root or one below the root. -/
theorem excluded_iff_directory {linter : Linter} {name path : String} {rel : List String}
    (single : linter.exclude = [directoryPattern name]) (some : name ≠ "")
    (noSlash : '/' ∉ name.toList) (plain : Plain name.toList)
    (below : Path.IsBelow linter.root rel path) :
    linter.exclude.any (excludes path) = true ↔
      name ∈ Path.named linter.root ∨ name ∈ rel.dropLast := by
  rw [single, List.any_cons, List.any_nil, Bool.or_false,
    excludes_directoryPattern_iff plain below.absolute noSlash some,
    ← Path.mem_dropLast_segments_iff below.absolute noSlash some, below.mem_dropLast_iff some]

/-- A linter of a root that leaves out what is in a directory called `vendor`. -/
def sparingVendor (root : String) : Linter where
  root := root
  rules := []
  exclude := [directoryPattern "vendor"]
  settings := {}
  fix := false
  strict := false

theorem excluded_iff_directory_of_vendoredModule :
    (sparingVendor "/srv/app").exclude.any
      (excludes "/srv/app/vendor/ntp/init.pp.tokens.json") = true := by
  have below : Path.IsBelow (sparingVendor "/srv/app").root ["vendor", "ntp", "init.pp.tokens.json"]
      "/srv/app/vendor/ntp/init.pp.tokens.json" := ⟨by decide, by decide, by decide⟩
  have plain : Plain "vendor".toList := by decide
  have directory : "vendor" ∈ ["vendor", "ntp", "init.pp.tokens.json"].dropLast := by decide
  exact (excluded_iff_directory rfl (by decide) (by decide) plain below).mpr (.inr directory)

/-- A project with one manifest, which itself lies in a directory called `vendor`. -/
def projectInVendor : FileTree := ⟨[
  (["vendor"], .directory),
  (["vendor", "app"], .directory),
  (["vendor", "app", "site.pp.tokens.json"], .file "")]⟩

/-- No file of such a project is checked, although no directory below its root has the name. -/
theorem exists_project_excluded : ∃ path rel,
    (sparingVendor "/vendor/app").candidates? projectInVendor = some [path] ∧
    Path.IsBelow (sparingVendor "/vendor/app").root rel path ∧ "vendor" ∉ rel.dropLast ∧
    (sparingVendor "/vendor/app").exclude.any (excludes path) = true ∧
    (sparingVendor "/vendor/app").discover? projectInVendor = some [] :=
  ⟨"/vendor/app/site.pp.tokens.json", ["site.pp.tokens.json"], by decide +kernel,
    ⟨by decide, by decide, by decide⟩, by decide, by decide +kernel, by decide +kernel⟩

end Linter

end ManifestLint
