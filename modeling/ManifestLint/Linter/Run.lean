import ManifestLint.Linter.Check
import ManifestLint.Report
import ManifestLint.Token.Codec
import ManifestLint.Wildcard.Walk

/-!
# Checking the files of a tree

Token files are found below the root by their name, and those that are excluded are left out. Each
is read, checked and, if an edit was made, written back as a whole. A file that is no token file is
passed over unless the run is strict. The violations of all files are put in order at the end.
-/
namespace ManifestLint

/-- How the names of token files end. -/
def tokenFileSuffix : String := ".tokens.json"

/-- Why a run failed. -/
inductive RunError where
  /-- A file could not be read or written. -/
  | inaccessible
  /-- A file is no token file. -/
  | malformed (path : String)
  /-- A repair was refused. -/
  | refused (path : String) (error : FixError)
  /-- The root makes no pattern. -/
  | badPattern
  deriving DecidableEq, Repr

namespace RunError

/-- The wording of a refused repair. -/
def refusal (path : String) (error : FixError) : String :=
  s!"Cannot fix violation in {path}: {error.message}"

end RunError

/-- The outcome of a run: the files it leaves, and a report or the reason it failed. -/
structure Run where
  files : FileTree
  result : Except RunError Report

/-- The outcome of one file: the files it leaves, and its violations with the number of edits made,
or the reason it failed. -/
structure FileRun where
  files : FileTree
  result : Except RunError (List Violation × Nat)

/-- A pattern without its pairs of stars. -/
def dropStarPairs : List Char → List Char
  | '*' :: '*' :: rest => dropStarPairs rest
  | c :: rest => c :: dropStarPairs rest
  | [] => []

/-- Whether a text occurs in another. -/
def occursIn (part text : List Char) : Bool :=
  (Wildcard.suffixes text).any fun rest => part.isPrefixOf rest

theorem occursIn_iff {part text : List Char} :
    occursIn part text ↔ ∃ before after, text = before ++ (part ++ after) := by
  simp only [occursIn, List.any_eq_true, Wildcard.mem_suffixes, List.isPrefixOf_iff_prefix]
  constructor
  · rintro ⟨rest, ⟨before, rfl⟩, after, rfl⟩
    exact ⟨before, after, rfl⟩
  · rintro ⟨before, after, rfl⟩
    exact ⟨part ++ after, ⟨before, rfl⟩, after, rfl⟩

/-- Whether a pattern excludes a path: it matches the path, or what is left of it without its pairs
of stars occurs in the path. -/
def excludes (path : String) (pattern : String) : Bool :=
  let plain := dropStarPairs pattern.toList
  (Wildcard.parse? pattern).any (Wildcard.isMatch · path.toList) ||
    (!plain.isEmpty && occursIn plain path.toList)

namespace Linter

/-- A linter whose root is given, taken from the settings, or the current directory, in this order.
The settings may be missing; then nothing but the given patterns is excluded. -/
def new (currentDirectory : String) (root : Option String) (settings : Option Settings)
    (rules : List Rule) (exclude : List String) (fix strict : Bool) : Linter where
  root := Path.append currentDirectory
    (root.getD ((settings.map fun settings => settings.scope.root).getD "."))
  rules := rules
  exclude := exclude ++ ((settings.map fun settings => settings.scope.exclude).getD [])
  settings := settings.getD {}
  fix := fix
  strict := strict

/-- The paths of all token files below the root, excluded ones included. -/
def candidates? (linter : Linter) (files : FileTree) : Option (List String) := do
  let found ← Wildcard.find? files s!"{linter.root}/**/*{tokenFileSuffix}"
  some (found.map Wildcard.Found.path)

/-- The paths of the token files to check. -/
def discover? (linter : Linter) (files : FileTree) : Option (List String) := do
  some ((← linter.candidates? files).filter fun path => !linter.exclude.any (excludes path))

/-- Checks one file. -/
def checkFile (linter : Linter) (files : FileTree) (path : String) : FileRun :=
  match files.read? path with
  | none => ⟨files, .error .inaccessible⟩
  | some content =>
    match TokenStream.decode? content with
    | none => ⟨files, .error (.malformed path)⟩
    | some stream =>
      let pass := linter.checkStream path stream
      match pass.result with
      | .error e => ⟨files, .error (.refused path e)⟩
      | .ok (violations, edits) =>
        -- A file is only written when something in it has changed.
        if edits = 0 then ⟨files, .ok (violations, 0)⟩
        else
          match files.write? path pass.stream.encodePretty with
          | none => ⟨files, .error .inaccessible⟩
          | some files => ⟨files, .ok (violations, edits)⟩

/-- Checks files one after the other and collects what they report. -/
def checkFiles (linter : Linter) (files : FileTree) (report : Report) : List String → Run
  | [] => ⟨files, .ok report⟩
  | path :: rest =>
    let run := linter.checkFile files path
    match run.result with
    | .ok (violations, edits) =>
      linter.checkFiles run.files {
        violations := report.violations ++ violations
        filesChecked := report.filesChecked + 1
        fixesApplied := report.fixesApplied + edits } rest
    | .error (.malformed path) =>
      if linter.strict then ⟨run.files, .error (.malformed path)⟩
      else linter.checkFiles run.files report rest
    | .error e => ⟨run.files, .error e⟩

/-- Whether a violation may stand before another: by file, line and column. -/
def comesBefore (a b : Violation) : Bool :=
  ((Path.compare a.location.file b.location.file).then
    ((compare a.location.line b.location.line).then
      (compare a.location.column b.location.column))).isLE

/-- Checks every token file. -/
def run (linter : Linter) (files : FileTree) : Run :=
  match linter.discover? files with
  | none => ⟨files, .error .badPattern⟩
  | some paths =>
    let run := linter.checkFiles files {} paths
    { run with
      result := run.result.map fun report =>
        { report with violations := report.violations.mergeSort comesBefore } }

end Linter

end ManifestLint
