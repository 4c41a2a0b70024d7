import ManifestLint.Settings.Basic
import ManifestLint.Toml.Document

/-!
# Settings from files

Sections and fields that are left out have their usual values, except that a section for the scope
without exclusions excludes nothing. Other sections and fields are passed over.
-/
namespace ManifestLint

/-- Reads a severity: its word, or a table whose only entry is that word with nothing in it. -/
def Severity.ofToml? : Json → Option Severity
  | .str word => ofWord? word
  | .obj [(word, .obj [])] | .obj [(word, .arr [])] => ofWord? word
  | _ => none

/-- Reads a scope. -/
def Scope.ofToml? (value : Json) : Option Scope := do
  let fields ← (value.truncate 2).fields? ["root", "exclude"]
  some {
    root := ← fields.optional "root" Json.asString? "."
    exclude := ← fields.optional "exclude" Json.asStrings? [] }

/-- Reads what is decided about one rule. -/
def RuleSettings.ofToml? (value : Json) : Option RuleSettings := do
  let fields ← (value.truncate 2).fields? ["enabled", "severity"]
  some {
    enabled := ← fields.optional "enabled" (fun value => value.asBool?.map some) none
    severity := ← fields.optional "severity" (fun value => (Severity.ofToml? value).map some) none }

namespace Settings

/-- Reads the section about rules. -/
def rulesOfToml? : Json → Option (List (String × RuleSettings))
  | .obj members => members.mapM fun (name, value) => do
    some (name, ← RuleSettings.ofToml? value)
  | _ => none

/-- Reads the text of a settings file. -/
def parse? (text : String) : Option Settings := do
  let fields ← (Json.obj (Toml.entriesToJson (← Toml.parse? text))).fields?
    ["analyzer", "styleguide", "rules"]
  some {
    scope := ← fields.optional "analyzer" Scope.ofToml? {}
    conventions := ← fields.optional "styleguide"
      (fun value => Conventions.ofJson? (value.truncate Conventions.fieldNames.length)) {}
    rules := ← fields.optional "rules" rulesOfToml? [] }

end Settings

end ManifestLint
