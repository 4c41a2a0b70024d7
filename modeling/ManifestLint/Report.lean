import ManifestLint.Violation

/-!
# Reports

The outcome of a run: the violations in order, how many files were checked and how many edits were
made. A repaired violation stays in the report and no longer counts.
-/
namespace ManifestLint

/-- The outcome of a run. -/
structure Report where
  violations : List Violation := []
  filesChecked : Nat := 0
  fixesApplied : Nat := 0
  deriving DecidableEq, Repr, Inhabited

namespace Report

/-- The violations that have not been repaired. -/
def outstanding (r : Report) : List Violation := r.violations.filter fun v => !v.fixed

/-- How many violations of a given severity are outstanding. -/
def count (r : Report) (severity : Severity) : Nat :=
  r.outstanding.countP fun v => v.severity == severity

/-- Whether an error is outstanding. -/
def hasErrors (r : Report) : Bool := r.outstanding.any fun v => v.severity == .error

/-- Whether a warning or an error is outstanding. -/
def hasWarnings (r : Report) : Bool := r.outstanding.any fun v => v.severity != .info

end Report

end ManifestLint
