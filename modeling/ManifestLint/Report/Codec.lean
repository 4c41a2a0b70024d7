import ManifestLint.Json.Reader
import ManifestLint.Json.Record
import ManifestLint.Json.Writer
import ManifestLint.Report

/-!
# Reports as JSON documents

Fields are written in a fixed order; the repair tag and the token of a violation are left out when
there is none. Reading accepts fields in any order and passes over others.
-/
namespace ManifestLint

/-- Reads a severity: its word, or an object whose only member is that word with `null`. -/
def Severity.ofJson? : Json → Option Severity
  | .str word => ofWord? word
  | .obj [(word, .null)] => ofWord? word
  | _ => none

namespace Location

/-- The names of the fields of a location, in order. -/
def fieldNames : List String := ["file", "line", "column"]

/-- The object a location is written as. -/
def toJson (l : Location) : Json :=
  .obj [("file", .str l.file), ("line", .nat l.line), ("column", .nat l.column)]

/-- Reads a location. -/
def ofJson? (value : Json) : Option Location := do
  let fields ← value.fields? fieldNames
  some {
    file := ← fields.required "file" Json.asString?
    line := ← fields.required "line" Json.asNat?
    column := ← fields.required "column" Json.asNat? }

end Location

namespace Violation

/-- The names of the fields of a violation, in order. -/
def fieldNames : List String :=
  ["code", "rule", "severity", "location", "message", "fix_tag", "token", "fixed"]

/-- The object a violation is written as. -/
def toJson (v : Violation) : Json :=
  .obj ([("code", .str v.code), ("rule", .str v.rule), ("severity", .str v.severity.word),
    ("location", v.location.toJson), ("message", .str v.message)]
    ++ (v.fixTag.map fun tag => ("fix_tag", Json.str tag)).toList
    ++ (v.token.map fun token => ("token", Json.nat token)).toList
    ++ [("fixed", .bool v.fixed)])

/-- Reads a violation. -/
def ofJson? (value : Json) : Option Violation := do
  let fields ← value.fields? fieldNames
  some {
    code := ← fields.required "code" Json.asString?
    rule := ← fields.required "rule" Json.asString?
    severity := ← fields.required "severity" Severity.ofJson?
    location := ← fields.required "location" Location.ofJson?
    message := ← fields.required "message" Json.asString?
    fixTag := ← fields.optional "fix_tag" (Json.optional? Json.asString?) none
    token := ← fields.optional "token" (Json.optional? Json.asNat?) none
    fixed := ← fields.optional "fixed" Json.asBool? false }

end Violation

namespace Report

/-- The names of the fields of a report, in order. -/
def fieldNames : List String := ["violations", "files_checked", "fixes_applied"]

/-- The object a report is written as. -/
def toJson (r : Report) : Json :=
  .obj [("violations", .arr (r.violations.map Violation.toJson)),
    ("files_checked", .nat r.filesChecked), ("fixes_applied", .nat r.fixesApplied)]

/-- Reads a report. -/
def ofJson? (value : Json) : Option Report := do
  let fields ← value.fields? fieldNames
  some {
    violations := ← fields.required "violations" fun items => do
      (← items.asArray?).mapM Violation.ofJson?
    filesChecked := ← fields.required "files_checked" Json.asNat?
    fixesApplied := ← fields.optional "fixes_applied" Json.asNat? 0 }

/-- The compact text of a report. -/
def encode (r : Report) : String := r.toJson.toCompact

/-- The pretty text of a report. -/
def encodePretty (r : Report) : String := r.toJson.toPretty

/-- Reads the text of a report. Parts that are passed over need not denote anything. -/
def decode? (text : String) : Option Report := do
  ofJson? (← Json.parse? text)

end Report

end ManifestLint
