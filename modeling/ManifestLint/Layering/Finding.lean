import ManifestLint.Block.View
import ManifestLint.NodePattern.Repair
import ManifestLint.Rule

/-!
# Findings

What the check of a block comes to before it is tied to a file: a place in the stream, a message and
possibly a repair.
-/
namespace ManifestLint.Layering

/-- Where a finding is: at a token, or at the start of the file when no single token stands for it.
-/
inductive Site where
  | token (i : Nat)
  | start
  deriving DecidableEq, Repr

/-- A broken convention. -/
structure Finding where
  site : Site
  message : String
  repair : Option Repair
  deriving DecidableEq, Repr

/-- A finding at a token. -/
def Finding.at (i : Nat) (message : String) : Finding := ⟨.token i, message, none⟩

/-- A finding about a whole declaration. -/
def Finding.atStart (message : String) : Finding := ⟨.start, message, none⟩

/-- A finding at a token that a repair resolves. -/
def Finding.fixable (i : Nat) (message : String) (repair : Repair) : Finding :=
  ⟨.token i, message, some repair⟩

/-- How the message of every violation begins. -/
def messageStart : String := "wmf-style: "

/-- The violation of a finding in a file. -/
def Finding.violation (ctx : FileContext) (rule : RuleInfo) (f : Finding) : Violation :=
  let message := messageStart ++ f.message
  let plain := match f.site with
    | .token i => ctx.violationAt rule i message
    | .start => ctx.violationAtStart rule message
  { plain with fixTag := f.repair.map Repair.tag }

end ManifestLint.Layering
