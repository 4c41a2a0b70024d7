import ManifestLint.Block.Index
import ManifestLint.Conventions
import ManifestLint.Name
import ManifestLint.Parameter

/-!
# What a block says

Queries on a block and the stream it was cut from: its name and its layer, its parameters, and the
calls, includes and declarations within it. Results are positions, in the order of the stream.
-/
namespace ManifestLint

/-- The architectural layer of a block. -/
inductive Layer where
  | profile
  | role
  | plainClass
  | definedType
  | node
  deriving DecidableEq, Repr

namespace Block

variable (b : Block) (s : TokenStream)

/-- The titles of a node that hold a token; a class or a defined type has none. -/
def titleTokens : List Nat := b.kind.titles.filter (· < s.size)

/-- The titles of a node in one text. -/
def title : String := ", ".intercalate ((b.titleTokens s).map s.text)

/-- The name of a class or a defined type without its leading `::`, or the title. -/
def name : String :=
  match b.kind.name?.bind s.token? with
  | some token => Name.normalize token.text
  | none => b.title s

/-- The module that owns a block. -/
def module : String := Name.moduleOf (b.name s)

/-- A class in the module that holds profiles. -/
def isProfile (c : Conventions) : Bool := b.kind.isClass && b.module s == c.profileModule

/-- A class in the module that holds roles. -/
def isRole (c : Conventions) : Bool := b.kind.isClass && b.module s == c.roleModule

/-- The layer a block belongs to. A class in a module for both is a profile. -/
def layer (c : Conventions) : Layer :=
  match b.kind with
  | .classDef _ _ =>
    if b.isProfile s c then .profile else if b.isRole s c then .role else .plainClass
  | .definedType _ _ => .definedType
  | .node _ => .node

/-- The parameters of a class or a defined type. -/
def parameters : Parameters :=
  match b.kind.params? with
  | none => []
  | some span => s.parameters (span.positions s)

/-- The calls of the function that fetches data. -/
def lookups : List Nat := (b.positions s).filter s.isLookup

/-- The calls of deprecated functions that fetch data. -/
def legacyLookups : List Nat := (b.positions s).filter s.isLegacyLookup

/-- The calls of legacy validation functions. -/
def legacyValidates : List Nat := (b.positions s).filter s.isLegacyValidate

/-- The tokens that name included classes. -/
def includedClasses : List Nat := (b.positions s).filterMap s.includedClass?

/-- The tokens that name classes declared like resources. -/
def declaredClasses : List Nat := (b.positions s).filterMap s.declaredClass?

/-- The types of declared resources. -/
def declaredResources : List Nat := (b.positions s).filter s.isResourceType

/-- The declarations of resources of a given type. -/
def resourcesOf (type : String) : List Nat :=
  (b.declaredResources s).filter fun i => Name.normalize (s.text i) == Name.normalize type

end Block

end ManifestLint
