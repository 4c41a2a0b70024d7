import Mathlib.Algebra.GroupWithZero.Nat
import ManifestLint.Proofs.Linter.Outcome
import ManifestLint.Proofs.Report.Order

/-!
# The order in which files are checked

What a check makes of a file depends on the path and the content of the file alone, and it writes no
other file. So the checks of two files can change places, and a run over files in any order reports
the same and leaves the same files. That the violations come in the same order as well is due to the
stable sort at the end, and to rules that report in the file they check: then no two files report at
the same place. The order shows where two of them do, and where two paths lead to the same file.
-/
namespace ManifestLint

/-! ### Files that get a new content -/

namespace FileTree

/-- Puts a new content into the file at a place, if there is one. -/
def update (t : FileTree) (place : Place) : Option String → FileTree
  | none => t
  | some content => t.put place (.file content)

theorem putEntry_comm {one other : Place} (differ : one ≠ other) {entries : List (Place × Node)}
    (present : entries.lookup one ≠ none) (a b : Node) :
    putEntry other b (putEntry one a entries) = putEntry one a (putEntry other b entries) := by
  induction entries with
  | nil => exact absurd rfl present
  | cons entry rest ih =>
    obtain ⟨here, old⟩ := entry
    by_cases first : here = one
    · subst first
      simp [putEntry, differ]
    by_cases second : here = other
    · subst second
      simp [putEntry, first]
    · -- The entry that is there already stands further down, so neither is put at the end first.
      have further : rest.lookup one ≠ none := by
        rwa [List.lookup_cons, beq_eq_false_iff_ne.mpr (Ne.symm first)] at present
      simp [putEntry, first, second, ih further]

section File

variable {t : FileTree} {place : Place} {old : String}
  (file : t.node? place = some (.file old))
include file

theorem resolve?_update (content : Option String) (path : String) :
    (t.update place content).resolve? path = t.resolve? path := by
  cases content with
  | none => rfl
  | some text =>
    exact resolve?_congr (isDirectory_put_file t place text (isDirectory_of_file file)) path

theorem node?_update (content : Option String) {other : Place} (elsewhere : other ≠ place) :
    (t.update place content).node? other = t.node? other := by
  cases content with
  | none => rfl
  | some text => rw [update, node?_put t place other _ (ne_nil_of_file file), if_neg elsewhere]

theorem read?_update (content : Option String) {path : String}
    (elsewhere : t.resolve? path ≠ some place) :
    (t.update place content).read? path = t.read? path := by
  have same : (t.update place content).lookup? path = t.lookup? path := by
    rw [lookup?, lookup?, resolve?_update file]
    cases resolved : t.resolve? path with
    | none => rfl
    | some other => exact node?_update file content fun equal => elsewhere (equal ▸ resolved)
  rw [read?, read?, same]

theorem update_comm {other : Place} (differ : place ≠ other) (one two : Option String) :
    (t.update place one).update other two = (t.update other two).update place one := by
  cases one with
  | none => rfl
  | some first =>
    cases two with
    | none => rfl
    | some second =>
      have present : t.entries.lookup place ≠ none := by
        rw [node?, if_neg (by simpa using ne_nil_of_file file)] at file
        rw [file]
        exact Option.some_ne_none _
      exact congrArg FileTree.mk (putEntry_comm differ present _ _)

end File

end FileTree

namespace Linter

variable (linter : Linter) {files : FileTree} {path : String}

/-! ### One file -/

/-- What the check of a file comes to, by its path and content. -/
def outcome (path content : String) : Except RunError (List Violation × Nat) :=
  match TokenStream.decode? content with
  | none => .error (.malformed path)
  | some stream => (linter.checkStream path stream).result.mapError (.refused path)

/-- What the check of a file writes back, by its path and content; none if the file stays. -/
def rewritten? (path content : String) : Option String := do
  let stream ← TokenStream.decode? content
  let (_, edits) ← (linter.checkStream path stream).result.toOption
  if edits = 0 then none else some (linter.checkStream path stream).stream.encodePretty

theorem checkFile_of_missing (missing : files.read? path = none) :
    linter.checkFile files path = ⟨files, .error .inaccessible⟩ := by
  rw [checkFile, missing]

theorem checkFile_of_file {content : String} {place : Place}
    (resolved : files.resolve? path = some place)
    (file : files.node? place = some (.file content)) :
    linter.checkFile files path =
      ⟨files.update place (linter.rewritten? path content), linter.outcome path content⟩ := by
  have present : files.read? path = some content := by
    rw [FileTree.read?, FileTree.lookup?, resolved, Option.bind_some, file]
  rw [checkFile, present, outcome]
  cases read : TokenStream.decode? content with
  | none => simp [rewritten?, read, FileTree.update]
  | some stream =>
    cases result : (linter.checkStream path stream).result with
    | error e => simp [rewritten?, read, result, Except.toOption, Except.mapError, FileTree.update]
    | ok done =>
      obtain ⟨violations, edits⟩ := done
      by_cases idle : edits = 0
      · simp [rewritten?, read, result, Except.toOption, Except.mapError, FileTree.update, idle]
      · -- A file that was read can be written.
        have written := FileTree.write?_eq_put resolved file
          (linter.checkStream path stream).stream.encodePretty
        simp [rewritten?, read, result, Except.toOption, Except.mapError, FileTree.update, idle,
          written]

theorem checkFile_of_passed {content : String} {place : Place} {s t : TokenStream}
    {violations : List Violation} {edits : Nat} (resolved : files.resolve? path = some place)
    (file : files.node? place = some (.file content))
    (read : TokenStream.decode? content = some s)
    (passed : linter.checkStream path s = ⟨t, .ok (violations, edits)⟩) :
    linter.checkFile files path =
      ⟨files.update place (if edits = 0 then none else some t.encodePretty),
        .ok (violations, edits)⟩ := by
  rw [checkFile_of_file linter resolved file]
  simp [outcome, rewritten?, read, passed, Except.toOption, Except.mapError]

theorem resolve?_checkFile (files : FileTree) (path other : String) :
    (linter.checkFile files path).files.resolve? other = files.resolve? other := by
  cases present : files.read? path with
  | none => rw [checkFile_of_missing linter present]
  | some content =>
    obtain ⟨place, resolved, file⟩ := FileTree.exists_place_of_read? present
    rw [checkFile_of_file linter resolved file]
    exact FileTree.resolve?_update file _ other

/-! ### Two files -/

section Apart

variable {one other : String} (apart : files.resolve? one ≠ files.resolve? other)
include apart

/-- The check of a file leaves every other one as it is. -/
theorem read?_checkFile : (linter.checkFile files one).files.read? other = files.read? other := by
  cases present : files.read? one with
  | none => rw [checkFile_of_missing linter present]
  | some content =>
    obtain ⟨place, resolved, file⟩ := FileTree.exists_place_of_read? present
    rw [checkFile_of_file linter resolved file]
    exact FileTree.read?_update file _ (resolved ▸ apart.symm)

theorem result_checkFile :
    (linter.checkFile (linter.checkFile files one).files other).result =
      (linter.checkFile files other).result := by
  have same := read?_checkFile linter apart
  cases present : files.read? other with
  | none =>
    rw [checkFile_of_missing linter present, checkFile_of_missing linter (same.trans present)]
  | some content =>
    obtain ⟨place, resolved, file⟩ := FileTree.exists_place_of_read? present
    obtain ⟨later, still, unchanged⟩ := FileTree.exists_place_of_read? (same.trans present)
    rw [checkFile_of_file linter resolved file, checkFile_of_file linter still unchanged]

/-- The checks of two files can change places. -/
theorem files_checkFile_comm :
    (linter.checkFile (linter.checkFile files one).files other).files =
      (linter.checkFile (linter.checkFile files other).files one).files := by
  have otherSame := read?_checkFile linter apart
  have oneSame := read?_checkFile linter apart.symm
  cases onePresent : files.read? one with
  | none =>
    rw [checkFile_of_missing linter onePresent,
      checkFile_of_missing linter (oneSame.trans onePresent)]
  | some oneContent =>
    cases otherPresent : files.read? other with
    | none =>
      rw [checkFile_of_missing linter otherPresent,
        checkFile_of_missing linter (otherSame.trans otherPresent)]
    | some otherContent =>
      obtain ⟨first, toFirst, firstFile⟩ := FileTree.exists_place_of_read? onePresent
      obtain ⟨second, toSecond, secondFile⟩ := FileTree.exists_place_of_read? otherPresent
      have differ : first ≠ second := by
        rintro rfl
        exact apart (toFirst.trans toSecond.symm)
      -- Neither check moves or changes the file of the other.
      rw [checkFile_of_file linter toFirst firstFile, checkFile_of_file linter toSecond secondFile,
        checkFile_of_file linter ((FileTree.resolve?_update firstFile _ other).trans toSecond)
          ((FileTree.node?_update firstFile _ differ.symm).trans secondFile),
        checkFile_of_file linter ((FileTree.resolve?_update secondFile _ one).trans toFirst)
          ((FileTree.node?_update secondFile _ differ).trans firstFile)]
      exact FileTree.update_comm firstFile differ _ _

end Apart

/-! ### Files one after the other -/

/-- Paths that lead to different files. -/
def Apart (files : FileTree) (paths : List String) : Prop :=
  paths.Pairwise fun one other => files.resolve? one ≠ files.resolve? other

instance (files : FileTree) (paths : List String) : Decidable (Apart files paths) :=
  inferInstanceAs (Decidable (paths.Pairwise _))

/-- A file that does not end a run: its check succeeds, or it is no token file and the run passes
over those. -/
def Completes (files : FileTree) (path : String) : Prop :=
  (∃ done, (linter.checkFile files path).result = .ok done) ∨
    (linter.checkFile files path).result = .error (.malformed path) ∧ linter.strict = false

/-- What the rules report on the stream of a file, and how many edits are made to it; none if it is
no token file. -/
def reportOn (files : FileTree) (path : String) : Option (List Violation × Nat) := do
  let stream ← TokenStream.decode? (← files.read? path)
  (linter.checkStream path stream).result.toOption

/-- The files that checks of files leave, one after the other. -/
def visit (files : FileTree) (paths : List String) : FileTree :=
  paths.foldl (fun files path => (linter.checkFile files path).files) files

/-- A report with more outcomes of files. -/
def extend (report : Report) (outcomes : List (List Violation × Nat)) : Report where
  violations := report.violations ++ outcomes.flatMap Prod.fst
  filesChecked := report.filesChecked + outcomes.length
  fixesApplied := report.fixesApplied + (outcomes.map Prod.snd).sum

theorem reportOn_eq (files : FileTree) (path : String) :
    linter.reportOn files path = (linter.checkFile files path).result.toOption := by
  cases present : files.read? path with
  | none =>
    rw [checkFile_of_missing linter present, reportOn, present]
    rfl
  | some content =>
    obtain ⟨place, resolved, file⟩ := FileTree.exists_place_of_read? present
    rw [checkFile_of_file linter resolved file, reportOn, present, outcome]
    cases read : TokenStream.decode? content with
    | none => simp [read, Except.toOption]
    | some stream =>
      cases result : (linter.checkStream path stream).result <;>
        simp [read, result, Except.toOption, Except.mapError]

theorem apart_checkFile {paths : List String} (apart : Apart files paths) (path : String) :
    Apart (linter.checkFile files path).files paths := by
  rw [Apart]
  simp only [resolve?_checkFile]
  exact apart

theorem visit_perm {first second : List String} (perm : first.Perm second)
    (apart : Apart files first) : linter.visit files first = linter.visit files second := by
  induction perm generalizing files with
  | nil => rfl
  | cons path _ ih => exact ih (apart_checkFile linter (List.pairwise_cons.mp apart).2 path)
  | swap one other rest =>
    have differ : files.resolve? other ≠ files.resolve? one :=
      (List.pairwise_cons.mp apart).1 one List.mem_cons_self
    simp only [visit, List.foldl_cons, files_checkFile_comm linter differ]
  | trans first _ ih₁ ih₂ =>
    exact (ih₁ apart).trans (ih₂ ((first.pairwise_iff Ne.symm).mp apart))

/-- A run over files none of which ends it collects what each of them reports by itself. -/
theorem checkFiles_eq {paths : List String} (apart : Apart files paths)
    (completes : ∀ path ∈ paths, linter.Completes files path) (report : Report) :
    linter.checkFiles files report paths = ⟨linter.visit files paths,
      .ok (extend report (paths.filterMap (linter.reportOn files)))⟩ := by
  induction paths generalizing files report with
  | nil => simp [checkFiles, visit, extend]
  | cons path rest ih =>
    obtain ⟨others, restApart⟩ := List.pairwise_cons.mp apart
    obtain ⟨here, restCompletes⟩ := List.forall_mem_cons.mp completes
    -- The files that are still to come are what they were before this one was checked.
    have same : ∀ other ∈ rest,
        (linter.checkFile (linter.checkFile files path).files other).result =
          (linter.checkFile files other).result :=
      fun other member => result_checkFile linter (others other member)
    have reports : rest.filterMap (linter.reportOn (linter.checkFile files path).files) =
        rest.filterMap (linter.reportOn files) :=
      List.filterMap_congr fun other member => by rw [reportOn_eq, reportOn_eq, same other member]
    have later := ih (apart_checkFile linter restApart path) fun other member => by
      rw [Completes, same other member]
      exact restCompletes other member
    simp only [reports] at later
    rw [checkFiles, List.filterMap_cons, reportOn_eq]
    rcases here with ⟨⟨violations, edits⟩, passed⟩ | ⟨malformed, lenient⟩
    · simp [passed, later, Except.toOption, extend, visit, Nat.add_assoc, Nat.add_comm 1]
    · simp [malformed, lenient, later, Except.toOption, visit]

end Linter

/-! ### Whose place it is -/

theorem FileContext.file_locationOf (ctx : FileContext) (i : Nat) :
    (ctx.locationOf i).file = ctx.relativePath := by
  rw [locationOf]
  split <;> rfl

/-- A rule that reports in the file it checks, as every violation made from the context of a check
does. -/
def Rule.ReportsOwnFile (rule : Rule) : Prop :=
  ∀ ctx, ∀ v ∈ rule.check ctx, v.location.file = ctx.relativePath

theorem Layering.reportsOwnFile_rule (c : Conventions) : (Layering.rule c).ReportsOwnFile := by
  intro ctx v reported
  obtain ⟨f, _, rfl⟩ := List.mem_map.mp reported
  rw [Finding.violation]
  cases f.site with
  | start => rfl
  | token i => exact ctx.file_locationOf i

namespace Linter

variable (linter : Linter) {files : FileTree} {path : String}

theorem exists_of_mem_reportOf {settings : Settings} {ctx : FileContext} {rule : Rule}
    {v : Violation} (reported : v ∈ reportOf settings ctx rule) :
    ∃ w ∈ rule.check ctx, w.location = v.location := by
  rw [reportOf] at reported
  split at reported
  · exact ⟨v, reported, rfl⟩
  · obtain ⟨w, found, rfl⟩ := List.mem_map.mp reported
    exact ⟨w, found, rfl⟩

/-- A pass moves no violation. -/
theorem map_location_checkStream {s : TokenStream} {violations : List Violation} {edits : Nat}
    (passed : (linter.checkStream path s).result = .ok (violations, edits)) :
    violations.map Violation.location = ((linter.reports (.ofStream path s linter.root)).flatMap
      fun report => report.2).map Violation.location := by
  rw [checkStream] at passed
  split at passed
  · exact (settles_of_repairAll passed).map_location
  · cases passed
    rfl

theorem file_of_mem_reportOn (own : ∀ rule ∈ linter.rules, rule.ReportsOwnFile)
    {violations : List Violation} {edits : Nat}
    (reported : linter.reportOn files path = some (violations, edits)) :
    ∀ v ∈ violations, v.location.file = Path.relativeTo linter.root path := by
  simp only [reportOn, Option.bind_eq_bind, Option.bind_eq_some_iff] at reported
  obtain ⟨content, _, s, _, passed⟩ := reported
  have result : (linter.checkStream path s).result = .ok (violations, edits) := by
    cases result : (linter.checkStream path s).result <;> simp_all [Except.toOption]
  intro v member
  have located := List.mem_map_of_mem (f := Violation.location) member
  rw [map_location_checkStream linter result, ← map_snd_attributed] at located
  obtain ⟨w, listed, same⟩ := List.mem_map.mp located
  obtain ⟨⟨rule, w⟩, attributed, rfl⟩ := List.mem_map.mp listed
  obtain ⟨among, _, found⟩ := enabled_of_mem_attributed attributed
  obtain ⟨u, checked, place⟩ := exists_of_mem_reportOf found
  rw [← same, ← place]
  exact own rule among _ u checked

/-- Paths that are different below the root. -/
def NamedApart (paths : List String) : Prop :=
  paths.Pairwise fun one other => Path.components (Path.relativeTo linter.root one) ≠
    Path.components (Path.relativeTo linter.root other)

instance (paths : List String) : Decidable (linter.NamedApart paths) :=
  inferInstanceAs (Decidable (paths.Pairwise _))

theorem reports_apart (own : ∀ rule ∈ linter.rules, rule.ReportsOwnFile) {paths : List String}
    (named : linter.NamedApart paths) :
    (paths.filterMap (linter.reportOn files)).Pairwise fun one other =>
      ∀ v ∈ one.1, ∀ w ∈ other.1, ¬ v.SamePlace w := by
  refine List.Pairwise.filterMap _ (fun first second differ one here other there => ?_) named
  intro v reported w alsoReported same
  apply differ
  rw [← file_of_mem_reportOn linter own here v reported,
    ← file_of_mem_reportOn linter own there w alsoReported]
  exact same.1

/-- Files that share no place can change places: at each place one of them reports nothing. -/
theorem filter_flatMap_perm {outcomes others : List (List Violation × Nat)}
    (perm : outcomes.Perm others)
    (apart : outcomes.Pairwise fun one other => ∀ v ∈ one.1, ∀ w ∈ other.1, ¬ v.SamePlace w)
    (v : Violation) :
    (outcomes.flatMap Prod.fst).filter (v.SamePlace ·) =
      (others.flatMap Prod.fst).filter (v.SamePlace ·) := by
  induction perm with
  | nil => rfl
  | cons outcome _ ih =>
    simp only [List.flatMap_cons, List.filter_append, ih (List.pairwise_cons.mp apart).2]
  | swap one other rest =>
    have differ := (List.pairwise_cons.mp apart).1 one List.mem_cons_self
    have silent : other.1.filter (v.SamePlace ·) = [] ∨ one.1.filter (v.SamePlace ·) = [] := by
      by_contra both
      obtain ⟨otherSpeaks, oneSpeaks⟩ := not_or.mp both
      obtain ⟨u, uHere⟩ := List.exists_mem_of_ne_nil _ otherSpeaks
      obtain ⟨w, wHere⟩ := List.exists_mem_of_ne_nil _ oneSpeaks
      simp only [List.mem_filter, decide_eq_true_eq] at uHere wHere
      exact differ u uHere.1 w wHere.1 (uHere.2.symm.trans wHere.2)
    rcases silent with none | none <;>
      simp [List.flatMap_cons, List.filter_append, none]
  | trans first _ ih₁ ih₂ =>
    have symmetric {one other : List Violation × Nat}
        (differ : ∀ v ∈ one.1, ∀ w ∈ other.1, ¬ v.SamePlace w) :
        ∀ v ∈ other.1, ∀ w ∈ one.1, ¬ v.SamePlace w :=
      fun v reported w alsoReported same => differ w alsoReported v reported same.symm
    exact (ih₁ apart).trans (ih₂ ((first.pairwise_iff symmetric).mp apart))

/-! ### A run -/

/-- A run over files in a given order. -/
def runOver (files : FileTree) (paths : List String) : Run :=
  let run := linter.checkFiles files {} paths
  { run with
    result := run.result.map fun report =>
      { report with violations := report.violations.mergeSort comesBefore } }

/-- A run goes over the files in the order in which they are found. -/
theorem run_eq_runOver {paths : List String} (found : linter.discover? files = some paths) :
    linter.run files = linter.runOver files paths := by
  rw [run, found]
  rfl

/-- The report on files with given outcomes. -/
def arrange (outcomes : List (List Violation × Nat)) : Report where
  violations := (outcomes.flatMap Prod.fst).mergeSort comesBefore
  filesChecked := outcomes.length
  fixesApplied := (outcomes.map Prod.snd).sum

end Linter

/-- A report on files with given outcomes: it counts files and edits, and holds every violation
once, in order, those at the same place as they were reported. -/
structure Report.Arranges (report : Report) (outcomes : List (List Violation × Nat)) : Prop where
  filesChecked : report.filesChecked = outcomes.length
  fixesApplied : report.fixesApplied = (outcomes.map Prod.snd).sum
  violations : report.violations.Perm (outcomes.flatMap Prod.fst)
  ordered : report.violations.Pairwise Violation.InOrder
  stable : ∀ v : Violation, report.violations.filter (v.SamePlace ·) =
    (outcomes.flatMap Prod.fst).filter (v.SamePlace ·)

namespace Linter

variable (linter : Linter) {files : FileTree}

theorem arranges_arrange (outcomes : List (List Violation × Nat)) :
    (arrange outcomes).Arranges outcomes where
  filesChecked := rfl
  fixesApplied := rfl
  violations := List.mergeSort_perm _ _
  ordered := inOrder_mergeSort _
  stable := filter_mergeSort _

theorem runOver_eq {paths : List String} (apart : Apart files paths)
    (completes : ∀ path ∈ paths, linter.Completes files path) :
    linter.runOver files paths = ⟨linter.visit files paths,
      .ok (arrange (paths.filterMap (linter.reportOn files)))⟩ := by
  rw [runOver, checkFiles_eq linter apart completes]
  simp [Except.map, extend, arrange]

theorem arrange_eq_iff {outcomes others : List (List Violation × Nat)}
    (perm : outcomes.Perm others) :
    arrange others = arrange outcomes ↔ ∀ v : Violation,
      (others.flatMap Prod.fst).filter (v.SamePlace ·) =
        (outcomes.flatMap Prod.fst).filter (v.SamePlace ·) := by
  have checked := perm.length_eq
  have edits := (perm.map Prod.snd).sum_nat
  rw [arrange, arrange, Report.mk.injEq, mergeSort_eq_iff, checked, edits]
  simp only [and_true]

/-- A run over different files none of which ends it depends on the order in which they are found at
most where violations stand at the same place. In either order it leaves the same files and counts
the same files and edits, and its report holds what the rules report on each file by itself, once
and in order. The reports are the same exactly if at each place both orders report the same, and so
they are where every rule reports in the file it checks. -/
theorem runOver_perm {first second : List String} (perm : first.Perm second)
    (named : linter.NamedApart first) (apart : Apart files first)
    (completes : ∀ path ∈ first, linter.Completes files path) :
    ∃ after one other,
      linter.runOver files first = ⟨after, .ok one⟩ ∧
      linter.runOver files second = ⟨after, .ok other⟩ ∧
      (linter.discover? files = some first → linter.run files = ⟨after, .ok one⟩) ∧
      one.Arranges (first.filterMap (linter.reportOn files)) ∧
      other.Arranges (second.filterMap (linter.reportOn files)) ∧
      other.filesChecked = one.filesChecked ∧ other.fixesApplied = one.fixesApplied ∧
      other.violations.Perm one.violations ∧
      (other = one ↔ ∀ v : Violation,
        ((second.filterMap (linter.reportOn files)).flatMap Prod.fst).filter (v.SamePlace ·) =
          ((first.filterMap (linter.reportOn files)).flatMap Prod.fst).filter (v.SamePlace ·)) ∧
      ((∀ rule ∈ linter.rules, rule.ReportsOwnFile) → other = one) := by
  have apartToo : Apart files second := (perm.pairwise_iff Ne.symm).mp apart
  have completesToo : ∀ path ∈ second, linter.Completes files path :=
    fun path member => completes path (perm.mem_iff.mpr member)
  have run := runOver_eq linter apart completes
  have outcomes := perm.filterMap (linter.reportOn files)
  have arranged := arranges_arrange (first.filterMap (linter.reportOn files))
  have arrangedToo := arranges_arrange (second.filterMap (linter.reportOn files))
  refine ⟨linter.visit files first, _, _, run, ?_, fun found => ?_, arranged, arrangedToo,
    outcomes.length_eq.symm, ((outcomes.map Prod.snd).sum_nat).symm, ?_, arrange_eq_iff outcomes,
    fun own => ?_⟩
  · rw [runOver_eq linter apartToo completesToo, visit_perm linter perm apart]
  · rw [run_eq_runOver linter found, run]
  · exact arrangedToo.violations.trans
      ((outcomes.symm.flatMap_right Prod.fst).trans arranged.violations.symm)
  · rw [arrange_eq_iff outcomes]
    exact fun v => (filter_flatMap_perm outcomes (reports_apart linter own named) v).symm

/-- The layering rule with repairs, below a directory. -/
def repairingBelow : Linter := { repairing with root := "/m" }

/-- Two token files and one that is none. -/
def threeFiles : FileTree :=
  (((FileTree.empty.makeDirectories ["m"]).put ["m", "a.tokens.json"]
    (.file (TokenStream.nodeOf "db1$").encode)).put ["m", "b.tokens.json"]
    (.file (TokenStream.nodeOf "^db2\\.wmnet").encode)).put ["m", "c.tokens.json"] (.file "[")

theorem reportsOwnFile_of_mem_repairing : ∀ rule ∈ repairing.rules, rule.ReportsOwnFile := by
  intro rule listed
  obtain rfl := List.mem_singleton.mp listed
  exact Layering.reportsOwnFile_rule _

theorem reportOn_nodeOf {pattern : String}
    (present : files.read? path = some (TokenStream.nodeOf pattern).encode) :
    linter.reportOn files path = (linter.checkStream path (.nodeOf pattern)).result.toOption := by
  have read := TokenStream.decode?_encode_of_new (TokenStream.new_of_mem_nodeOf pattern)
  simp [reportOn, present, read]

theorem completes_of_reportOn {done : List Violation × Nat}
    (reported : linter.reportOn files path = some done) : linter.Completes files path := by
  rw [reportOn_eq] at reported
  cases result : (linter.checkFile files path).result with
  | error e =>
    rw [result] at reported
    cases reported
  | ok done => exact .inl ⟨done, result⟩

/-- Forwards and backwards the files give the same report: two violations of the first pattern, one
of the second, and each of them mended. -/
theorem runOver_perm_of_threeFiles :
    ∃ after report,
      repairingBelow.runOver threeFiles
          ["/m/a.tokens.json", "/m/b.tokens.json", "/m/c.tokens.json"] = ⟨after, .ok report⟩ ∧
        repairingBelow.runOver threeFiles
          ["/m/c.tokens.json", "/m/b.tokens.json", "/m/a.tokens.json"] = ⟨after, .ok report⟩ ∧
        report.violations.Pairwise Violation.InOrder ∧ report.violations.length = 3 ∧
        report.filesChecked = 2 ∧ report.fixesApplied = 3 := by
  have perm : ["/m/a.tokens.json", "/m/b.tokens.json", "/m/c.tokens.json"].Perm
      ["/m/c.tokens.json", "/m/b.tokens.json", "/m/a.tokens.json"] := by decide
  have named : repairingBelow.NamedApart
      ["/m/a.tokens.json", "/m/b.tokens.json", "/m/c.tokens.json"] := by
    decide +kernel
  have apart : Apart threeFiles
      ["/m/a.tokens.json", "/m/b.tokens.json", "/m/c.tokens.json"] := by
    decide +kernel
  have two : ((repairingBelow.checkStream "/m/a.tokens.json" (.nodeOf "db1$")).result.toOption.map
      fun done => (done.1.length, done.2)) = some (2, 2) := by decide +kernel
  have single : ((repairingBelow.checkStream "/m/b.tokens.json"
      (.nodeOf "^db2\\.wmnet")).result.toOption.map
      fun done => (done.1.length, done.2)) = some (1, 1) := by decide +kernel
  have malformed : (repairingBelow.checkFile threeFiles "/m/c.tokens.json").result =
      .error (.malformed "/m/c.tokens.json") := by decide +kernel
  have aPresent : threeFiles.read? "/m/a.tokens.json" =
      some (TokenStream.nodeOf "db1$").encode := rfl
  have bPresent : threeFiles.read? "/m/b.tokens.json" =
      some (TokenStream.nodeOf "^db2\\.wmnet").encode := rfl
  rw [← reportOn_nodeOf _ aPresent] at two
  rw [← reportOn_nodeOf _ bPresent] at single
  obtain ⟨a, aReported, aCounts⟩ := Option.map_eq_some_iff.mp two
  obtain ⟨b, bReported, bCounts⟩ := Option.map_eq_some_iff.mp single
  have none : repairingBelow.reportOn threeFiles "/m/c.tokens.json" = none := by
    rw [reportOn_eq, malformed]
    rfl
  obtain ⟨after, one, other, forwards, backwards, _, arranged, _, _, _, _, _, same⟩ :=
    runOver_perm repairingBelow perm named apart (by
      simp only [List.forall_mem_cons]
      exact ⟨completes_of_reportOn _ aReported, completes_of_reportOn _ bReported,
        .inr ⟨malformed, rfl⟩, fun _ => nofun⟩)
  obtain rfl := same reportsOwnFile_of_mem_repairing
  rw [List.filterMap_cons_some aReported, List.filterMap_cons_some bReported,
    List.filterMap_cons_none none, List.filterMap_nil] at arranged
  simp only [Prod.mk.injEq] at aCounts bCounts
  refine ⟨after, other, forwards, backwards, arranged.ordered, ?_, arranged.filesChecked, ?_⟩
  · rw [arranged.violations.length_eq]
    simp [aCounts, bCounts]
  · rw [arranged.fixesApplied]
    simp [aCounts, bCounts]

/-! ### Where the order shows -/

/-- A file that two paths lead to is repaired under the first of them. If nothing is found in it
afterwards, it counts twice and is reported once. -/
theorem runOver_of_samePlace {first second content : String} {place : Place} {s t : TokenStream}
    {violations : List Violation} {edits : Nat} (toFirst : files.resolve? first = some place)
    (toSecond : files.resolve? second = some place)
    (file : files.node? place = some (.file content))
    (read : TokenStream.decode? content = some s)
    (passed : linter.checkStream first s = ⟨t, .ok (violations, edits)⟩) (edited : edits ≠ 0)
    (reread : TokenStream.decode? t.encodePretty = some t)
    (clean : (linter.checkStream second t).result = .ok ([], 0)) :
    (linter.runOver files [first, second]).result =
      .ok ⟨violations.mergeSort comesBefore, 2, edits⟩ := by
  have one := checkFile_of_passed linter toFirst file read passed
  rw [if_neg edited] at one
  -- The second check reads what the first has written.
  have still := (FileTree.resolve?_update file (some t.encodePretty) second).trans toSecond
  have written : (files.update place (some t.encodePretty)).node? place =
      some (.file t.encodePretty) := by
    rw [FileTree.update, FileTree.node?_put _ _ _ _ (FileTree.ne_nil_of_file file), if_pos rfl]
  have two := checkFile_of_passed linter still written reread
    (congrArg (Pass.mk (linter.checkStream second t).stream) clean)
  simp [runOver, checkFiles, one, two, Except.map]

/-- The entry of a file in an index. -/
def indexEntry (path : String) : Violation where
  code := "IX001"
  rule := "index"
  severity := .info
  location := ⟨"index", 1, 1⟩
  message := path
  fixTag := none
  token := none
  fixed := false

/-- A rule that enters every file in an index, all of them at the same place. -/
def indexRule : Rule where
  name := "index"
  code := "IX001"
  severity := .info
  check ctx := [indexEntry ctx.path]

/-- The rule that makes an index, below a directory. -/
def indexing : Linter := { repairingBelow with rules := [indexRule] }

/-- An index holds the files in the order in which they are checked. -/
theorem runOver_indexing {paths : List String} (apart : Apart files paths)
    (present : ∀ path ∈ paths, ∃ pattern,
      files.read? path = some (TokenStream.nodeOf pattern).encode) :
    ∃ report, (indexing.runOver files paths).result = .ok report ∧
      report.violations = paths.map indexEntry := by
  have reported : ∀ path ∈ paths, indexing.reportOn files path = some ([indexEntry path], 0) := by
    intro path member
    obtain ⟨pattern, here⟩ := present path member
    rw [reportOn_nodeOf _ here]
    rfl
  have outcomes : paths.filterMap (indexing.reportOn files) =
      paths.map fun path => ([indexEntry path], 0) := by
    rw [List.filterMap_congr reported]
    exact congrFun List.filterMap_eq_map paths
  have onePlace : (paths.map indexEntry).Pairwise Violation.SamePlace :=
    List.pairwise_map.mpr (List.pairwise_of_forall fun _ _ => ⟨rfl, rfl, rfl⟩)
  rw [runOver_eq indexing apart fun path member => completes_of_reportOn _ (reported path member)]
  refine ⟨_, rfl, ?_⟩
  rw [outcomes, arrange, List.flatMap_map, ← List.map_eq_flatMap]
  exact mergeSort_eq_self_of_samePlace onePlace

/-- One token file, at the root of the file system. -/
def fileAtRoot : FileTree :=
  ⟨[(["site.tokens.json"], .file (TokenStream.nodeOf "db1").encode)]⟩

/-- The layering rule with repairs, with a root that leads to the same files twice. -/
def repairingTwice : Linter := { repairing with root := "/.*" }

/-- The paths by which the file is found. -/
def twoWays : List String := ["/../site.tokens.json", "/./site.tokens.json"]

theorem resolve?_fileAtRoot {path : String} (way : path ∈ twoWays) :
    fileAtRoot.resolve? path = some ["site.tokens.json"] := by
  have each : ∀ path ∈ twoWays, fileAtRoot.resolve? path = some ["site.tokens.json"] := by decide
  exact each path way

theorem exists_checkStream_of_mem_twoWays {path : String} (way : path ∈ twoWays) :
    ∃ v, v.location.file = path ∧
      repairingTwice.checkStream path (.nodeOf "db1") = ⟨.nodeOf "^db1", .ok ([v], 1)⟩ := by
  have each : ∀ path ∈ twoWays,
      repairingTwice.editsOf path (.nodeOf "db1") = [⟨1, "^db1"⟩] ∧
      (repairingTwice.checkStream path (.nodeOf "db1")).result.toOption.map
        (fun done => (done.1.map fun v => v.location.file, done.2)) = some ([path], 1) := by
    decide +kernel
  obtain ⟨edits, passed⟩ := each path way
  have made := (made_checkStream repairingTwice path (.nodeOf "db1")).stream
  rw [edits] at made
  have mended : (repairingTwice.checkStream path (.nodeOf "db1")).stream = .nodeOf "^db1" :=
    (Option.some.inj made).symm
  cases result : (repairingTwice.checkStream path (.nodeOf "db1")).result with
  | error e =>
    rw [result] at passed
    cases passed
  | ok done =>
    rw [result] at passed
    obtain ⟨located, counted⟩ := Prod.mk.inj (Option.some.inj passed)
    obtain ⟨v, single, here⟩ := List.map_eq_singleton_iff.mp located
    have outcome : done = ([v], 1) := Prod.ext single counted
    exact ⟨v, here, by rw [← mended, ← outcome, ← result]⟩

theorem reportOn_fileAtRoot {path : String} (way : path ∈ twoWays) :
    ∃ v, v.location.file = path ∧ repairingTwice.reportOn fileAtRoot path = some ([v], 1) := by
  obtain ⟨v, here, passed⟩ := exists_checkStream_of_mem_twoWays way
  have present : fileAtRoot.read? path = some (TokenStream.nodeOf "db1").encode := by
    rw [FileTree.read?, FileTree.lookup?, resolve?_fileAtRoot way]
    rfl
  refine ⟨v, here, ?_⟩
  rw [reportOn_nodeOf _ present, passed]
  rfl

/-- Whichever of the paths comes first, the file is reported under that one alone. -/
theorem runOver_fileAtRoot {first second : String} (one : first ∈ twoWays)
    (two : second ∈ twoWays) :
    ∃ report, (repairingTwice.runOver fileAtRoot [first, second]).result = .ok report ∧
      report.violations.map (fun v => v.location.file) = [first] := by
  have cleared : ∀ path ∈ twoWays,
      (repairingTwice.checkStream path (.nodeOf "^db1")).result = .ok ([], 0) := by
    decide +kernel
  have read := TokenStream.decode?_encode_of_new (TokenStream.new_of_mem_nodeOf "db1")
  have reread := TokenStream.decode?_encodePretty_of_new (TokenStream.new_of_mem_nodeOf "^db1")
  obtain ⟨v, here, passed⟩ := exists_checkStream_of_mem_twoWays one
  refine ⟨_, runOver_of_samePlace repairingTwice (resolve?_fileAtRoot one)
    (resolve?_fileAtRoot two) rfl read passed Nat.one_ne_zero reread (cleared second two), ?_⟩
  rw [List.mergeSort_singleton]
  exact congrArg (fun file => [file]) here

/-- The order can show in two ways. A rule that reports every file at one place reports them there
in the order in which they are checked, although the files are different. And a root with wildcards
can lead to one file by two paths: then the file is repaired and reported under the path that comes
first, and what the rules report on it under the other by itself is lost. -/
theorem exists_order_shown :
    (indexing.NamedApart ["/m/a.tokens.json", "/m/b.tokens.json"] ∧
      Apart threeFiles ["/m/a.tokens.json", "/m/b.tokens.json"] ∧
      ∃ one other,
        (indexing.runOver threeFiles ["/m/a.tokens.json", "/m/b.tokens.json"]).result = .ok one ∧
        (indexing.runOver threeFiles ["/m/b.tokens.json", "/m/a.tokens.json"]).result =
          .ok other ∧
        one.violations.map Violation.message = ["/m/a.tokens.json", "/m/b.tokens.json"] ∧
        other.violations.map Violation.message = ["/m/b.tokens.json", "/m/a.tokens.json"]) ∧
    repairingTwice.discover? fileAtRoot = some twoWays ∧
      repairingTwice.NamedApart twoWays ∧
      (∀ rule ∈ repairingTwice.rules, rule.ReportsOwnFile) ∧
      ∃ one other,
        (repairingTwice.runOver fileAtRoot twoWays).result = .ok one ∧
        (repairingTwice.runOver fileAtRoot twoWays.reverse).result = .ok other ∧
        one.violations.map (fun v => v.location.file) = ["/../site.tokens.json"] ∧
        other.violations.map (fun v => v.location.file) = ["/./site.tokens.json"] ∧
        ((twoWays.filterMap (repairingTwice.reportOn fileAtRoot)).flatMap Prod.fst).map
          (fun v => v.location.file) = twoWays := by
  constructor
  · have named : indexing.NamedApart ["/m/a.tokens.json", "/m/b.tokens.json"] := by decide +kernel
    have apart : Apart threeFiles ["/m/a.tokens.json", "/m/b.tokens.json"] := by decide +kernel
    have apartToo : Apart threeFiles ["/m/b.tokens.json", "/m/a.tokens.json"] := by decide +kernel
    have a : ∃ pattern, threeFiles.read? "/m/a.tokens.json" =
        some (TokenStream.nodeOf pattern).encode := ⟨"db1$", rfl⟩
    have b : ∃ pattern, threeFiles.read? "/m/b.tokens.json" =
        some (TokenStream.nodeOf pattern).encode := ⟨"^db2\\.wmnet", rfl⟩
    obtain ⟨one, forwards, ab⟩ := runOver_indexing apart (by simp [a, b])
    obtain ⟨other, backwards, ba⟩ := runOver_indexing apartToo (by simp [a, b])
    exact ⟨named, apart, one, other, forwards, backwards, by rw [ab]; rfl, by rw [ba]; rfl⟩
  · have found : repairingTwice.discover? fileAtRoot = some twoWays := by decide +kernel
    have named : repairingTwice.NamedApart twoWays := by decide +kernel
    have up : "/../site.tokens.json" ∈ twoWays := by decide
    have here : "/./site.tokens.json" ∈ twoWays := by decide
    obtain ⟨one, forwards, oneFile⟩ := runOver_fileAtRoot up here
    obtain ⟨other, backwards, otherFile⟩ := runOver_fileAtRoot here up
    obtain ⟨v, vFile, vReported⟩ := reportOn_fileAtRoot up
    obtain ⟨w, wFile, wReported⟩ := reportOn_fileAtRoot here
    refine ⟨found, named, reportsOwnFile_of_mem_repairing, one, other, forwards, backwards, oneFile,
      otherFile, ?_⟩
    rw [twoWays, List.filterMap_cons_some vReported, List.filterMap_cons_some wReported,
      List.filterMap_nil]
    simp [vFile, wFile]

end Linter

end ManifestLint
