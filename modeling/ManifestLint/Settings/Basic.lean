import ManifestLint.Conventions
import ManifestLint.Violation

/-!
# Settings

What a settings file decides: where to look for token files, the conventions to enforce, and for
each rule whether it runs and how much its violations matter.
-/
namespace ManifestLint

/-- Where to look for token files. -/
structure Scope where
  root : String := "."
  /-- Patterns of files to leave out. -/
  exclude : List String := ["**/vendor/**"]
  deriving DecidableEq, Repr, Inhabited

/-- What is decided about one rule. -/
structure RuleSettings where
  enabled : Option Bool := none
  severity : Option Severity := none
  deriving DecidableEq, Repr, Inhabited

/-- The settings of a run. -/
structure Settings where
  scope : Scope := {}
  conventions : Conventions := {}
  /-- The rules something is decided about, by name. -/
  rules : List (String × RuleSettings) := []
  deriving DecidableEq, Repr, Inhabited

namespace Settings

/-- Whether a rule runs. It does unless it is switched off. -/
def isEnabled (settings : Settings) (rule : String) : Bool :=
  ((settings.rules.lookup rule).bind RuleSettings.enabled).getD true

/-- The severity that replaces that of a rule. -/
def severity? (settings : Settings) (rule : String) : Option Severity :=
  (settings.rules.lookup rule).bind RuleSettings.severity

end Settings

end ManifestLint
