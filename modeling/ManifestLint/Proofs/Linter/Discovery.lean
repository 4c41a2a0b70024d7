import Mathlib.Data.List.Forall2
import ManifestLint.Linter.Run
import ManifestLint.Proofs.Wildcard.Search

/-!
# Token files below a root

The root becomes the beginning of a pattern as it is written. While no character of it begins a
wildcard, the pattern selects what stands below the root, at any depth, under the name of a token
file, and nothing else: files, and directories that have such a name. A root with a wildcard in it
is searched for as a pattern, and may find nothing of what it holds.
-/
namespace ManifestLint

open Wildcard

/-- Something stands below a directory, at any depth, under the name of a token file. -/
structure FileTree.TokenEntry (t : FileTree) (top place : Place) : Prop where
  below : top <+: place
  proper : place ≠ top
  present : t.node? place ≠ none
  named : tokenFileSuffix.toList <:+ (place.getLastD "").toList

/-- A path leads to a place below a root if it is made of the root and the names behind it. -/
structure FileTree.LeadsBelow (t : FileTree) (root : String) (top : Place) (path : String)
    (place : Place) : Prop where
  resolved : t.resolve? path = some place
  below : Path.IsBelow root (place.drop top.length) path

/-! ### The root as a search spells it -/

/-- The path that a search has come to behind the names of a root. -/
def searchBase (root : String) : String := ((Path.segments root).drop 1).foldl Path.append "/"

section Base

variable {root : String} {t : FileTree} {top : Place} (absolute : Path.isAbsolute root = true)
  (resolved : t.resolve? root = some top)
include absolute resolved

theorem foldlM_step?_of_resolve? :
    ((Path.segments root).drop 1).foldlM t.step? [] = some top := by
  -- The empty segment in front of an absolute path is no step.
  obtain ⟨rest, -, cut⟩ := Path.segments_of_isAbsolute absolute
  rw [FileTree.resolve?, cut] at resolved
  rw [cut]
  exact resolved

theorem searchBase_spec : Path.isAbsolute (searchBase root) = true ∧
    Path.named (searchBase root) = Path.named root ∧ t.resolve? (searchBase root) = some top := by
  obtain ⟨rest, -, cut⟩ := Path.segments_of_isAbsolute absolute
  have reached := foldlM_step?_of_resolve? absolute resolved
  have noSlash : ∀ name ∈ (Path.segments root).drop 1, '/' ∉ name.toList :=
    fun name member => Path.noSlash_of_mem_segments (List.mem_of_mem_drop member)
  have start : Path.isAbsolute "/" = true := by decide
  have none : Path.named "/" = [] := by decide
  obtain ⟨absolute', named⟩ := Path.named_foldl_append start noSlash
  refine ⟨absolute', named.trans ?_, FileTree.resolve?_foldl_append start noSlash (by rfl) reached⟩
  rw [none, Path.named, cut]
  rfl

/-- What stands below the root is led to by the root and the names behind it. -/
theorem leadsBelow_searchBase (grounded : t.Grounded) {names : List String} (some : names ≠ [])
    (present : t.node? (top ++ names) ≠ none) :
    t.LeadsBelow root top (names.foldl Path.append (searchBase root)) (top ++ names) := by
  obtain ⟨absolute', named, resolved'⟩ := searchBase_spec absolute resolved
  obtain ⟨isNames, reached⟩ := grounded.foldlM_step? fun _ => present
  refine ⟨FileTree.resolve?_foldl_append absolute' (fun name member => (isNames name member).noSlash)
    resolved' reached, ?_⟩
  rw [List.drop_left]
  exact Path.isBelow_foldl_append absolute' named some isNames

end Base

/-! ### The pattern of a root -/

/-- The pattern of the token files below a root. -/
def tokenFilePattern (root : String) : String := s!"{root}/**/*{tokenFileSuffix}"

/-- How the name of a token file is written as a pattern. -/
def tokenFileAtoms : List Atom := .anyRun :: tokenFileSuffix.toList.map Atom.char

theorem toList_tokenFilePattern (root : String) :
    (tokenFilePattern root).toList =
      root.toList ++ '/' :: ("**".toList ++ '/' :: "*.tokens.json".toList) := by
  simp [tokenFilePattern, tokenFileSuffix, toString]

theorem segments_tokenFilePattern (root : String) :
    Path.segments (tokenFilePattern root) = Path.segments root ++ ["**", "*.tokens.json"] := by
  rw [Path.segments, toList_tokenFilePattern, Path.go_append, Path.go_append, List.map_append,
    Path.segments]
  rfl

section Pattern

variable {root : String} (plain : Plain root.toList)
include plain

theorem exists_parse?_tokenFilePattern : ∃ atoms, parse? (tokenFilePattern root) = some atoms := by
  have slash : Plain (root.toList ++ ['/']) := plain_append.mpr ⟨plain, by decide⟩
  have chars : (tokenFilePattern root).toList =
      (root.toList ++ ['/']) ++ "**/*.tokens.json".toList := by
    rw [toList_tokenFilePattern, List.append_assoc]
    rfl
  have fuel : (tokenFilePattern root).length + 1 = (root.toList ++ ['/']).length + 17 := by
    rw [← String.length_toList, chars, List.length_append]
    rfl
  -- Behind the slash two stars may stand, and what is left is the same for every root.
  rw [parse?, fuel, chars, read?_append slash, List.foldl_append]
  exact ⟨_, rfl⟩

theorem mapM_parse?_tokenFilePattern (absolute : Path.isAbsolute root = true) :
    ((Path.segments (tokenFilePattern root)).drop 1).mapM Part.parse? =
      some (((Path.segments root).drop 1).map Part.literal ++
        [.directories, .wild tokenFileAtoms]) := by
  obtain ⟨rest, -, cut⟩ := Path.segments_of_isAbsolute absolute
  have names : ∀ name ∈ (Path.segments root).drop 1, Plain name.toList :=
    fun _ member c inside =>
      plain c (Path.mem_of_mem_segments (List.mem_of_mem_drop member) inside).1
  have wildcards : ["**", "*.tokens.json"].mapM Part.parse? =
      some [.directories, .wild tokenFileAtoms] := by decide
  rw [segments_tokenFilePattern, List.drop_append_of_le_length (by simp [cut]), List.mapM_append,
    mapM_parse?_of_plain names, wildcards]
  rfl

/-- The names of the root are followed, and all that stands below is asked for its name. -/
theorem find?_tokenFilePattern {t : FileTree} {top : Place}
    (absolute : Path.isAbsolute root = true) (resolved : t.resolve? root = some top)
    (directory : t.isDirectory top = true) :
    find? t (tokenFilePattern root) = some ((Found.below t ⟨searchBase root, top⟩).filter
      fun below => isMatch tokenFileAtoms below.name) := by
  obtain ⟨atoms, pattern⟩ := exists_parse?_tokenFilePattern plain
  have reached := foldlM_step?_of_resolve? absolute resolved
  rw [find?, pattern, mapM_parse?_tokenFilePattern plain absolute]
  simp only [Option.bind_eq_bind, Option.bind_some]
  rw [walk_literals, foldlM_follow? "/" reached directory, Option.toList_some,
    List.flatMap_singleton, walk_directories_wild]
  rfl

end Pattern

/-! ### What is found -/

/-- What stands below a directory under the name of a token file, in the order of a walk. -/
def tokenEntries (t : FileTree) (top : Place) : List Place :=
  ((t.below top).filter fun entry =>
    isMatch tokenFileAtoms (entry.1.getLastD "").toList).map Prod.fst

theorem mem_tokenEntries_iff {t : FileTree} {top place : Place} (grounded : t.Grounded) :
    place ∈ tokenEntries t top ↔ t.TokenEntry top place := by
  constructor
  · intro member
    obtain ⟨⟨place, node⟩, inside, rfl⟩ := List.mem_map.mp member
    obtain ⟨listed, suffixed⟩ := List.mem_filter.mp inside
    obtain ⟨stands, below, proper⟩ := FileTree.mem_below_iff.mp listed
    exact ⟨below, proper,
      (FileTree.node?_ne_none_iff (grounded.named _ stands).1).mpr ⟨node, stands⟩,
      (isMatch_anyRun_chars _ _).mp suffixed⟩
  · rintro ⟨below, proper, present, suffixed⟩
    have deeper : place ≠ [] := by
      rintro rfl
      exact proper (List.prefix_nil.mp below).symm
    obtain ⟨node, stands⟩ := (FileTree.node?_ne_none_iff deeper).mp present
    have listed := FileTree.mem_below_iff.mpr ⟨stands, below, proper⟩
    exact List.mem_map.mpr ⟨(place, node),
      List.mem_filter.mpr ⟨listed, (isMatch_anyRun_chars _ _).mpr suffixed⟩, rfl⟩

theorem nodup_tokenEntries {t : FileTree} (grounded : t.Grounded) (top : Place) :
    (tokenEntries t top).Nodup :=
  (grounded.nodup_below top).sublist (List.filter_sublist.map Prod.fst)

namespace Linter

variable {linter : Linter} {t : FileTree} {top : Place}

theorem candidates?_eq_some (absolute : Path.isAbsolute linter.root = true)
    (plain : Plain linter.root.toList) (resolved : t.resolve? linter.root = some top)
    (directory : t.isDirectory top = true) :
    linter.candidates? t = some ((tokenEntries t top).map fun place =>
      (place.drop top.length).foldl Path.append (searchBase linter.root)) := by
  rw [candidates?, ← tokenFilePattern, find?_tokenFilePattern plain absolute resolved directory]
  simp [Found.below, directory, List.filter_map, Function.comp_def, Found.name, tokenEntries]

/-- Whatever has the name of a token file below a root without wildcards is found, at any depth and
once, and nothing else is. A directory with such a name is found like a file. -/
theorem token_files_found_exactly (grounded : t.Grounded)
    (absolute : Path.isAbsolute linter.root = true) (plain : Plain linter.root.toList)
    (resolved : t.resolve? linter.root = some top) (directory : t.isDirectory top = true) :
    ∃ paths places, linter.candidates? t = some paths ∧
      List.Forall₂ (t.LeadsBelow linter.root top) paths places ∧ places.Nodup ∧
      ∀ place, place ∈ places ↔ t.TokenEntry top place := by
  refine ⟨_, tokenEntries t top, candidates?_eq_some absolute plain resolved directory, ?_,
    nodup_tokenEntries grounded top, fun place => mem_tokenEntries_iff grounded⟩
  rw [List.forall₂_map_left_iff, List.forall₂_same]
  intro place member
  obtain ⟨⟨names, rfl⟩, proper, present, -⟩ := (mem_tokenEntries_iff grounded).mp member
  have more : names ≠ [] := fun none => proper (by simp [none])
  rw [List.drop_left]
  exact leadsBelow_searchBase absolute resolved grounded more present

/-- A linter without rules and excluded files. -/
def looking (root : String) : Linter where
  root := root
  rules := []
  exclude := []
  settings := {}
  fix := false
  strict := false

/-- Token files at two depths next to a file of another name, and a directory with the name of a
token file. -/
def nestedManifests : FileTree := ⟨[
  (["srv"], .directory),
  (["srv", "site.pp.tokens.json"], .file ""),
  (["srv", "site.pp"], .file ""),
  (["srv", "role"], .directory),
  (["srv", "role", "web.pp.tokens.json"], .file ""),
  (["srv", "old.tokens.json"], .directory)]⟩

theorem token_files_found_exactly_of_nestedManifests :
    ∃ paths places, (looking "/srv").candidates? nestedManifests = some paths ∧
      List.Forall₂ (nestedManifests.LeadsBelow "/srv" ["srv"]) paths places ∧ places.Nodup ∧
      ∀ place, place ∈ places ↔ nestedManifests.TokenEntry ["srv"] place := by
  have grounded : nestedManifests.Grounded := ⟨by decide, by decide, by decide⟩
  have plain : Plain (looking "/srv").root.toList := by decide
  exact token_files_found_exactly grounded (by decide) plain (by decide) (by decide)

/-- A directory whose name is a wildcard, with a token file in it. -/
def bracketedManifests : FileTree := ⟨[
  (["[a]"], .directory),
  (["[a]", "site.pp.tokens.json"], .file "")]⟩

/-- The root is taken for a wildcard: nothing of what it holds is found. -/
theorem exists_token_file_missed : ∃ place, bracketedManifests.Grounded ∧
    bracketedManifests.resolve? (looking "/[a]").root = some ["[a]"] ∧
    bracketedManifests.isDirectory ["[a]"] = true ∧
    bracketedManifests.TokenEntry ["[a]"] place ∧
    bracketedManifests.node? place = some (.file "") ∧
    (looking "/[a]").candidates? bracketedManifests = some [] := by
  have pattern : parse? "/[a]/**/*.tokens.json" ≠ none := by decide +kernel
  have parts : ((Path.segments "/[a]/**/*.tokens.json").drop 1).mapM Part.parse? =
      some [.wild [.inClass [.char 'a']], .directories, .wild tokenFileAtoms] := by decide +kernel
  -- The only name in the root of the file system is longer than the one character of the class.
  have below : bracketedManifests.below [] = bracketedManifests.entries := by
    rw [FileTree.below, List.mergeSort_of_pairwise] <;> decide
  have none : (Found.children bracketedManifests ⟨"/", []⟩).filter
      (fun child => isMatch [.inClass [.char 'a']] child.name) = [] := by
    rw [Found.children, FileTree.children, below]
    decide +kernel
  refine ⟨["[a]", "site.pp.tokens.json"], ⟨by decide, by decide, by decide⟩, by decide, by decide,
    ⟨by decide, by decide, by decide, by decide⟩, by decide, ?_⟩
  have text : tokenFilePattern (looking "/[a]").root = "/[a]/**/*.tokens.json" := rfl
  obtain ⟨atoms, read⟩ := Option.ne_none_iff_exists'.mp pattern
  rw [candidates?, ← tokenFilePattern, text, find?, read, parts]
  simp [walk, specialNames, none]

end Linter

end ManifestLint
