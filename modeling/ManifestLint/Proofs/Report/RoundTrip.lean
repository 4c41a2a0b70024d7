import Mathlib.Data.List.Nodup
import ManifestLint.Proofs.Json.Canonical
import ManifestLint.Proofs.Json.RoundTrip
import ManifestLint.Report.Codec

/-!
# Reports round-trip

A record is written with some of its fields, in order and each once, so a reader that looks fields
up by name finds what was written and takes a field that was left out to be absent. A report whose
numbers are words of 64 bits is therefore read back as it was, whatever its texts are made of.
-/
namespace ManifestLint

/-! ### Records that name each field once -/

namespace Json

/-- The members of an object. -/
def members : Json → List (String × Json)
  | .obj members => members
  | _ => []

/-- The fields of a record, looked up by name among the members of its object. -/
def fieldsOf (members : List (String × Json)) : Fields := ⟨fun name => (named name members).head?⟩

section Record

variable {names : List String} {members : List (String × Json)} {name : String} {value : Json}
  {α : Type}

theorem length_named (name : String) (members : List (String × Json)) :
    (named name members).length = (members.map Prod.fst).count name := by
  rw [named, List.length_map, List.count, List.countP_map, List.countP_eq_length_filter]
  rfl

theorem fields?_obj (distinct : (members.map Prod.fst).Nodup) :
    fields? names (.obj members) = some (fieldsOf members) := by
  have once : (names.all fun name => (named name members).length ≤ 1) = true := by
    refine List.all_eq_true.mpr fun name _ => decide_eq_true ?_
    rw [length_named]
    exact List.nodup_iff_count_le_one.mp distinct name
  rw [fields?, if_pos once]
  rfl

theorem get?_of_mem (distinct : (members.map Prod.fst).Nodup) (member : (name, value) ∈ members) :
    (fieldsOf members).get? name = some value := by
  have among : value ∈ named name members :=
    List.mem_map.mpr ⟨(name, value), List.mem_filter.mpr ⟨member, beq_self_eq_true name⟩, rfl⟩
  have once : (named name members).length = 1 := by
    rw [length_named]
    exact List.nodup_iff_count_eq_one.mp distinct name (List.mem_map_of_mem member)
  -- One member has the name, and the given one does.
  obtain ⟨only, found⟩ := List.length_eq_one_iff.mp once
  rw [found, List.mem_singleton] at among
  change (named name members).head? = some value
  rw [found, among]
  rfl

theorem get?_of_absent (absent : name ∉ members.map Prod.fst) :
    (fieldsOf members).get? name = none := by
  have nothing : named name members = [] := by
    rw [← List.length_eq_zero_iff, length_named, List.count_eq_zero_of_not_mem absent]
  change (named name members).head? = none
  rw [nothing]
  rfl

theorem required_of_mem (distinct : (members.map Prod.fst).Nodup)
    (member : (name, value) ∈ members) (read : Json → Option α) :
    (fieldsOf members).required name read = read value := by
  rw [Fields.required, get?_of_mem distinct member]
  rfl

theorem optional_of_mem (distinct : (members.map Prod.fst).Nodup)
    (member : (name, value) ∈ members) (read : Json → Option α) (default : α) :
    (fieldsOf members).optional name read default = read value := by
  rw [Fields.optional, get?_of_mem distinct member]

/-- A field that is only written if there is something to write is read as it was. -/
theorem optional_of_written (write : α → Json) {read : Json → Option α} {option : Option α}
    (distinct : (members.map Prod.fst).Nodup)
    (written : ∀ a, option = some a → (name, write a) ∈ members)
    (absent : option = none → name ∉ members.map Prod.fst)
    (reads : ∀ a, option = some a → optional? read (write a) = some (some a)) :
    (fieldsOf members).optional name (optional? read) none = some option := by
  cases option with
  | none => rw [Fields.optional, get?_of_absent (absent rfl)]
  | some a => rw [optional_of_mem distinct (written a rfl), reads a rfl]

end Record

end Json

theorem Severity.ofJson?_word (severity : Severity) :
    ofJson? (.str severity.word) = some severity :=
  ofWord?_word severity

/-! ### Locations -/

namespace Location

/-- A location whose numbers are words of 64 bits. -/
structure Writable (l : Location) : Prop where
  line : l.line < Text.wordCount
  column : l.column < Text.wordCount

variable {l : Location}

theorem distinct_toJson (l : Location) : (l.toJson.members.map Prod.fst).Nodup :=
  show fieldNames.Nodup by decide +kernel

theorem Writable.holdsWords (writable : l.Writable) : l.toJson.holdsWords = true := by
  simp only [toJson, Json.holdsWords, Json.wordMembers, Json.holdsWords_nat writable.line,
    Json.holdsWords_nat writable.column, Bool.and_self]

/-- A location that can be written is read back. -/
theorem ofJson?_toJson (writable : l.Writable) : ofJson? l.toJson = some l := by
  have distinct := l.distinct_toJson
  have file : ("file", .str l.file) ∈ l.toJson.members := by simp [toJson, Json.members]
  have line : ("line", .nat l.line) ∈ l.toJson.members := by simp [toJson, Json.members]
  have column : ("column", .nat l.column) ∈ l.toJson.members := by simp [toJson, Json.members]
  have fields : l.toJson.fields? fieldNames = some (Json.fieldsOf l.toJson.members) :=
    Json.fields?_obj distinct
  simp only [ofJson?, fields, Option.bind_eq_bind, Option.bind_some]
  rw [Json.required_of_mem distinct file, Json.required_of_mem distinct line,
    Json.required_of_mem distinct column, Json.asNat?_nat writable.line,
    Json.asNat?_nat writable.column]
  rfl

end Location

/-! ### Violations -/

namespace Violation

/-- A violation whose numbers are words of 64 bits. -/
structure Writable (v : Violation) : Prop where
  location : v.location.Writable
  token : ∀ token, v.token = some token → token < Text.wordCount

variable {v : Violation}

/-- Fields are written in order, each at most once. -/
theorem names_toJson (v : Violation) :
    (v.toJson.members.map Prod.fst).Sublist fieldNames := by
  obtain ⟨_, _, _, _, _, fixTag, token, _⟩ := v
  cases fixTag <;> cases token <;> simp [toJson, Json.members, fieldNames]

theorem distinct_toJson (v : Violation) : (v.toJson.members.map Prod.fst).Nodup :=
  v.names_toJson.nodup (by decide +kernel)

theorem isReadable_toJson (v : Violation) : v.toJson.isReadable = true := by
  obtain ⟨_, _, _, _, _, fixTag, token, _⟩ := v
  cases fixTag <;> cases token <;> rfl

theorem Writable.holdsWords (writable : v.Writable) : v.toJson.holdsWords = true := by
  rw [toJson, Json.holdsWords, Json.wordMembers_iff]
  intro member written
  simp only [List.mem_append, List.mem_cons, List.not_mem_nil, or_false, Option.mem_toList,
    Option.map_eq_some_iff] at written
  rcases written with ((required | ⟨tag, _, rfl⟩) | ⟨token, given, rfl⟩) | rfl
  · rcases required with rfl | rfl | rfl | rfl | rfl
    · rfl
    · rfl
    · rfl
    · exact writable.location.holdsWords
    · rfl
  · rfl
  · exact Json.holdsWords_nat (writable.token token given)
  · rfl

/-- The tag of the repair is left out exactly if there is none, so it is read as it was. -/
theorem fixTag_toJson (v : Violation) :
    (Json.fieldsOf v.toJson.members).optional "fix_tag" (Json.optional? Json.asString?) none =
      some v.fixTag := by
  refine Json.optional_of_written Json.str v.distinct_toJson (fun tag given => ?_)
    (fun missing => ?_) fun _ _ => rfl
  · simp [toJson, Json.members, given]
  -- Without a tag no member has its name, whether there is a token or not.
  · cases token : v.token <;> simp [toJson, Json.members, missing, token]

theorem token_toJson (writable : v.Writable) :
    (Json.fieldsOf v.toJson.members).optional "token" (Json.optional? Json.asNat?) none =
      some v.token := by
  refine Json.optional_of_written Json.nat v.distinct_toJson (fun token given => ?_)
    (fun missing => ?_) fun token given => ?_
  · simp [toJson, Json.members, given]
  · cases tag : v.fixTag <;> simp [toJson, Json.members, missing, tag]
  · exact congrArg (Option.map Option.some) (Json.asNat?_nat (writable.token token given))

/-- A violation that can be written is read back. -/
theorem ofJson?_toJson (writable : v.Writable) : ofJson? v.toJson = some v := by
  have distinct := v.distinct_toJson
  have code : ("code", .str v.code) ∈ v.toJson.members := by simp [toJson, Json.members]
  have rule : ("rule", .str v.rule) ∈ v.toJson.members := by simp [toJson, Json.members]
  have severity : ("severity", .str v.severity.word) ∈ v.toJson.members := by
    simp [toJson, Json.members]
  have location : ("location", v.location.toJson) ∈ v.toJson.members := by
    simp [toJson, Json.members]
  have message : ("message", .str v.message) ∈ v.toJson.members := by simp [toJson, Json.members]
  have fixed : ("fixed", .bool v.fixed) ∈ v.toJson.members := by simp [toJson, Json.members]
  have fields : v.toJson.fields? fieldNames = some (Json.fieldsOf v.toJson.members) :=
    Json.fields?_obj distinct
  simp only [ofJson?, fields, Option.bind_eq_bind, Option.bind_some, fixTag_toJson,
    token_toJson writable]
  rw [Json.required_of_mem distinct code, Json.required_of_mem distinct rule,
    Json.required_of_mem distinct severity, Json.required_of_mem distinct location,
    Json.required_of_mem distinct message, Json.optional_of_mem distinct fixed,
    Severity.ofJson?_word, Location.ofJson?_toJson writable.location]
  rfl

end Violation

/-! ### Reports -/

namespace Report

/-- A report whose numbers are words of 64 bits. -/
structure Writable (r : Report) : Prop where
  violations : ∀ v ∈ r.violations, v.Writable
  filesChecked : r.filesChecked < Text.wordCount
  fixesApplied : r.fixesApplied < Text.wordCount

variable {r : Report}

theorem distinct_toJson (r : Report) : (r.toJson.members.map Prod.fst).Nodup :=
  show fieldNames.Nodup by decide +kernel

theorem isReadable_toJson (r : Report) : r.toJson.isReadable = true := by
  have each : Json.readableItems (r.violations.map Violation.toJson) = true := by
    refine Json.readableItems_iff.mpr fun item listed => ?_
    obtain ⟨v, _, rfl⟩ := List.mem_map.mp listed
    exact v.isReadable_toJson
  simp [toJson, Json.isReadable, Json.readableMembers, Json.nat, each]

theorem Writable.holdsWords (writable : r.Writable) : r.toJson.holdsWords = true := by
  have each : Json.wordItems (r.violations.map Violation.toJson) = true := by
    refine Json.wordItems_iff.mpr fun item listed => ?_
    obtain ⟨v, member, rfl⟩ := List.mem_map.mp listed
    exact (writable.violations v member).holdsWords
  simp only [toJson, Json.holdsWords, Json.wordMembers, each,
    Json.holdsWords_nat writable.filesChecked, Json.holdsWords_nat writable.fixesApplied,
    Bool.and_self]

/-- A report that can be written is read back. -/
theorem ofJson?_toJson (writable : r.Writable) : ofJson? r.toJson = some r := by
  have distinct := r.distinct_toJson
  have violations :
      ("violations", .arr (r.violations.map Violation.toJson)) ∈ r.toJson.members := by
    simp [toJson, Json.members]
  have filesChecked : ("files_checked", .nat r.filesChecked) ∈ r.toJson.members := by
    simp [toJson, Json.members]
  have fixesApplied : ("fixes_applied", .nat r.fixesApplied) ∈ r.toJson.members := by
    simp [toJson, Json.members]
  have each : (r.violations.map Violation.toJson).mapM Violation.ofJson? =
      some (r.violations.map id) :=
    Json.mapM_map_of_some fun v member => Violation.ofJson?_toJson (writable.violations v member)
  have fields : r.toJson.fields? fieldNames = some (Json.fieldsOf r.toJson.members) :=
    Json.fields?_obj distinct
  simp only [ofJson?, fields, Option.bind_eq_bind, Option.bind_some]
  rw [Json.required_of_mem distinct violations, Json.required_of_mem distinct filesChecked,
    Json.optional_of_mem distinct fixesApplied, Json.asNat?_nat writable.filesChecked,
    Json.asNat?_nat writable.fixesApplied]
  simp [Json.asArray?, each]

/-- A report whose numbers are words of 64 bits is read back as it was from either of its texts,
its violations in the same order and each with the same fields, present or absent. -/
theorem decode?_encodings (writable : r.Writable) :
    decode? r.encode = some r ∧ decode? r.encodePretty = some r := by
  have readable := r.isReadable_toJson
  have words := writable.holdsWords
  have read := ofJson?_toJson writable
  constructor
  · rw [decode?, encode, Json.parse?_toCompact readable words]
    exact read
  · rw [decode?, encodePretty, Json.parse?_toPretty readable words]
    exact read

/-- A report of two violations, the first with all that may be left out, the largest line there is
and texts that need escapes. -/
def regexReport : Report where
  violations := [
    { code := "WS001", rule := "wmf-styleguide", severity := .error
      location := ⟨"site \"é\".pp", 18446744073709551615, 6⟩
      message := "node regex must not be anchored at the end: ^db\\d+\\.x$\t\x01\n"
      fixTag := some "node_regex_end", token := some 2, fixed := true },
    { code := "", rule := "", severity := .info, location := ⟨"", 0, 0⟩, message := ""
      fixTag := none, token := none, fixed := false }]
  filesChecked := 3
  fixesApplied := 1

theorem decode?_encodings_of_regexReport :
    regexReport.Writable ∧ decode? regexReport.encode = some regexReport ∧
      decode? regexReport.encodePretty = some regexReport := by
  have first : Location.Writable ⟨"site \"é\".pp", 18446744073709551615, 6⟩ :=
    ⟨by decide +kernel, by decide +kernel⟩
  have second : Location.Writable ⟨"", 0, 0⟩ := ⟨by decide +kernel, by decide +kernel⟩
  have token : 2 < Text.wordCount := by decide +kernel
  have writable : regexReport.Writable := by
    refine ⟨fun v member => ?_, by decide +kernel, by decide +kernel⟩
    rcases List.mem_cons.mp member with rfl | rest
    · exact ⟨first, fun _ given => Option.some.inj given ▸ token⟩
    · cases List.mem_singleton.mp rest
      exact ⟨second, fun _ given => by cases given⟩
  exact ⟨writable, decode?_encodings writable⟩

end Report

end ManifestLint
