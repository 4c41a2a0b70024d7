/-!
# Violations

A violation names the rule that was broken and the place where. One that can be repaired carries the
tag of its repair and the position of the token to change.
-/
namespace ManifestLint

/-- How much a violation matters, in increasing order. -/
inductive Severity where
  | info
  | warning
  | error
  deriving DecidableEq, Repr, Inhabited

namespace Severity

/-- The word for a severity in reports and settings. -/
def word : Severity → String
  | .info => "info"
  | .warning => "warning"
  | .error => "error"

/-- The severity of a word. -/
def ofWord? : String → Option Severity
  | "info" => some .info
  | "warning" => some .warning
  | "error" => some .error
  | _ => none

@[simp] theorem ofWord?_word (severity : Severity) : ofWord? severity.word = some severity := by
  cases severity <;> rfl

end Severity

/-- A place in a file. Lines and columns count from one. -/
structure Location where
  file : String
  line : Nat
  column : Nat
  deriving DecidableEq, Repr, Inhabited

/-- A broken rule. -/
structure Violation where
  code : String
  rule : String
  severity : Severity
  location : Location
  message : String
  /-- The tag of the repair, if there is one. -/
  fixTag : Option String
  /-- The position of the offending token, if there is a single one. -/
  token : Option Nat
  /-- Whether the violation has been repaired. -/
  fixed : Bool
  deriving DecidableEq, Repr, Inhabited

namespace Violation

/-- Whether a repair is known. -/
def isFixable (v : Violation) : Bool := v.fixTag.isSome

/-- The one-line form of a violation. -/
def line (v : Violation) : String :=
  let status := if v.fixed then "FIXED" else v.severity.word
  s!"{v.location.file}:{v.location.line}:{v.location.column}: {status} [{v.code}] {v.message}"

end Violation

end ManifestLint
