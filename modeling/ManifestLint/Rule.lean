import ManifestLint.Block.Index
import ManifestLint.Path
import ManifestLint.Violation

/-!
# Rules

A rule is a check of one file and a repair for what the check reports. Both are plain functions, so
a rule can be anything. A check sees the file as it was read; repairs are asked for afterwards.
-/
namespace ManifestLint

/-- What a rule is called, and how much its violations matter. -/
structure RuleInfo where
  name : String
  code : String
  description : String := ""
  severity : Severity := .error
  deriving DecidableEq, Repr

/-- What a check sees of a file. -/
structure FileContext where
  path : String
  /-- The path relative to the root of the project. -/
  relativePath : String
  stream : TokenStream
  /-- The classes and defined types of the file. -/
  definitions : List Block

namespace FileContext

/-- The context of a file below a root. -/
def ofStream (path : String) (stream : TokenStream) (root : String) : FileContext where
  path := path
  relativePath := Path.relativeTo root path
  stream := stream
  definitions := stream.definitions

/-- The nodes of the file. -/
def nodes (ctx : FileContext) : List Block := ctx.stream.nodes

/-- The place of the token at a position; the start of the file if there is no such token. -/
def locationOf (ctx : FileContext) (i : Nat) : Location :=
  match ctx.stream.token? i with
  | some token => ⟨ctx.relativePath, token.line, token.column⟩
  | none => ⟨ctx.relativePath, 1, 1⟩

/-- A violation at the token at a position. -/
def violationAt (ctx : FileContext) (rule : RuleInfo) (i : Nat) (message : String) : Violation where
  code := rule.code
  rule := rule.name
  severity := rule.severity
  location := ctx.locationOf i
  message := message
  fixTag := none
  token := some i
  fixed := false

/-- A violation of a whole declaration, which no single token stands for. -/
def violationAtStart (ctx : FileContext) (rule : RuleInfo) (message : String) : Violation where
  code := rule.code
  rule := rule.name
  severity := rule.severity
  location := ⟨ctx.relativePath, 1, 1⟩
  message := message
  fixTag := none
  token := none
  fixed := false

end FileContext

/-- Why a violation cannot be repaired. -/
inductive FixError where
  /-- The violation carries no repair tag. -/
  | notFixable (message : String)
  /-- No repair has this tag. -/
  | unsupported (tag : String)
  /-- The violation names no token. -/
  | missingToken (message : String)
  /-- The violation names a token past the end of the stream. -/
  | tokenOutOfRange (index : Nat)
  /-- The repair is for tokens of another kind. -/
  | wrongToken (index : Nat) (tag : String)
  deriving DecidableEq, Repr

namespace FixError

/-- The wording of an error. -/
def message : FixError → String
  | .notFixable message => s!"violation is not fixable: {message}"
  | .unsupported tag => s!"no fix registered for tag '{tag}'"
  | .missingToken message => s!"fixable violation has no token: {message}"
  | .tokenOutOfRange index => s!"token index {index} is out of range"
  | .wrongToken index tag => s!"token {index} cannot be fixed by '{tag}'"

/-- The error of a rule that has no repairs. -/
def ofViolation (v : Violation) : FixError :=
  match v.fixTag with
  | some tag => .unsupported tag
  | none => .notFixable v.message

end FixError

/-- A rule: a check, and a repair of what it reports. -/
structure Rule extends RuleInfo where
  /-- The violations of a file, in the order in which they are found. -/
  check : FileContext → List Violation
  /-- The edit that resolves a violation; a rule without repairs refuses. -/
  fix : TokenStream → Violation → Except FixError Edit := fun _ v => .error (.ofViolation v)

end ManifestLint
