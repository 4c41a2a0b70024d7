import ManifestLint.Rule
import ManifestLint.Settings.Basic

/-!
# Checking one stream

Every enabled rule reports on the stream as it is, and only then are repairs asked for, rule by rule
and violation by violation, each on the stream as the ones before have left it. A repair that is
refused ends the pass; the edits made until then stay.
-/
namespace ManifestLint

/-- What a run is made of. -/
structure Linter where
  /-- The directory below which files are looked for. -/
  root : String
  rules : List Rule
  /-- Patterns of files to leave out. -/
  exclude : List String
  settings : Settings
  /-- Whether violations are repaired. -/
  fix : Bool
  /-- Whether a file that is no token file ends the run. -/
  strict : Bool

/-- The outcome of a pass: the stream it leaves, and either the violations with the number of edits
made, or the repair that was refused. -/
structure Pass where
  stream : TokenStream
  result : Except FixError (List Violation × Nat)

/-- Puts violations in front of the outcome of a pass, and adds their edits. -/
def Pass.prepend (violations : List Violation) (edits : Nat) (pass : Pass) : Pass :=
  { pass with
    result := match pass.result with
      | .ok (rest, more) => .ok (violations ++ rest, edits + more)
      | .error e => .error e }

namespace Linter

/-- The violations of a rule in a file, with the severity that the settings give them. -/
def reportOf (settings : Settings) (ctx : FileContext) (rule : Rule) : List Violation :=
  match settings.severity? rule.name with
  | none => rule.check ctx
  | some severity => (rule.check ctx).map fun v => { v with severity }

/-- The rules that run, each with its violations. -/
def reports (linter : Linter) (ctx : FileContext) : List (Rule × List Violation) :=
  (linter.rules.filter fun rule => linter.settings.isEnabled rule.name).map fun rule =>
    (rule, reportOf linter.settings ctx rule)

/-- Repairs the violations of a rule one after the other. An edit that names no token of the stream
leaves its violation unrepaired. -/
def repair (rule : Rule) (stream : TokenStream) : List Violation → Pass
  | [] => ⟨stream, .ok ([], 0)⟩
  | v :: rest =>
    if v.isFixable then
      match rule.fix stream v with
      | .error e => ⟨stream, .error e⟩
      | .ok edit =>
        match stream.edit? edit with
        -- The edit names no token: nothing is changed and nothing is marked.
        | none => (repair rule stream rest).prepend [v] 0
        | some stream => (repair rule stream rest).prepend [{ v with fixed := true }] 1
    else (repair rule stream rest).prepend [v] 0

/-- Repairs the violations of all rules, rule after rule. -/
def repairAll (stream : TokenStream) : List (Rule × List Violation) → Pass
  | [] => ⟨stream, .ok ([], 0)⟩
  | (rule, violations) :: rest =>
    let pass := repair rule stream violations
    match pass.result with
    -- The edits made so far stay in the stream.
    | .error e => ⟨pass.stream, .error e⟩
    | .ok (done, edits) => (repairAll pass.stream rest).prepend done edits

/-- Checks a stream, and repairs it if that is asked for. -/
def checkStream (linter : Linter) (path : String) (stream : TokenStream) : Pass :=
  let reports := linter.reports (.ofStream path stream linter.root)
  if linter.fix then repairAll stream reports
  else ⟨stream, .ok (reports.flatMap fun report => report.2, 0)⟩

end Linter

end ManifestLint
