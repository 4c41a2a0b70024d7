import ManifestLint.Layering.Finding

/-!
# Who may fetch data

Only a profile fetches data, and only in the defaults of its parameters: each default must call the
function that does, and the body must not. No other class and no defined type fetches data at all.
Legacy validation functions are deprecated in all of them.
-/
namespace ManifestLint.Layering

/-- The key a call asks for, when its first argument is a string. -/
def keySuffix (s : TokenStream) (call : Nat) : String :=
  match (s.next? call).bind s.next? with
  | some argument =>
    if s.isKind argument .string || s.isKind argument .quoted then
      s!" for '{s.text argument}'"
    else ""
  | none => ""

/-- No call may fetch data in a block. -/
def withoutLookups (s : TokenStream) (b : Block) : List Finding :=
  let label := b.kind.label
  let name := b.name s
  (b.positions s).filterMap fun i =>
    if s.isLookup i then
      some (.at i s!"Found lookup call in {label} '{name}'{keySuffix s i}")
    else if s.isLegacyLookup i then
      some (.at i
        s!"Found deprecated {s.text i} call in {label} '{name}'{keySuffix s i}, use lookup instead")
    else none

/-- Every parameter of a profile has a default that fetches data, and not by a deprecated
function. -/
def parameterDefaults (s : TokenStream) (b : Block) : List Finding :=
  let name := b.name s
  (b.parameters s).filterMap fun p =>
    if p.value.any s.isLookup then none
    else match p.value.find? s.isLegacyLookup with
      | some call =>
        let function := s.text call
        some (.at p.token
          s!"Parameter '{p.name}' of class '{name}' uses deprecated {function}, use lookup instead")
      | none =>
        some (.at p.token s!"Parameter '{p.name}' of class '{name}' has no call to lookup")

/-- A profile fetches data in the defaults of its parameters only. -/
def lookupsOutsideDefaults (s : TokenStream) (b : Block) : List Finding :=
  let name := b.name s
  let params := b.parameters s
  (b.positions s).filterMap fun i =>
    if (s.isLookup i || s.isLegacyLookup i) && !params.inDefault i then
      some (.at i
        s!"Found {s.text i} call in class '{name}' outside of parameter defaults{keySuffix s i}")
    else none

/-- No call of a legacy validation function. -/
def withoutLegacyValidates (s : TokenStream) (b : Block) : List Finding :=
  let label := b.kind.label
  let name := b.name s
  (b.legacyValidates s).map fun i =>
    .at i s!"Found legacy function ({s.text i}) call in {label} '{name}'"

end ManifestLint.Layering
