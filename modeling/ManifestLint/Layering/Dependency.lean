import ManifestLint.Layering.Finding

/-!
# Who may depend on what

A profile includes profiles and a few exceptions; a role includes roles and profiles and declares
the resource that marks a role once and nothing else; other code stays inside its own module. Names
are compared without their leading `::`.
-/
namespace ManifestLint.Layering

/-- Whether a profile may include a class. -/
def profileMayInclude (c : Conventions) (target : String) : Bool :=
  let owner := Name.moduleOf target
  owner == c.profileModule || c.profileIncludeModules.contains owner ||
    c.profileIncludeClasses.contains target

/-- The includes of a profile. -/
def profileIncludes (c : Conventions) (s : TokenStream) (b : Block) : List Finding :=
  let name := b.name s
  (b.includedClasses s).filterMap fun i =>
    let target := Name.normalize (s.text i)
    if profileMayInclude c target then none
    else some (.at i s!"profile '{name}' includes non-profile class {target}")

/-- Whether a role may include a class. -/
def roleMayInclude (c : Conventions) (target : String) : Bool :=
  let owner := Name.moduleOf target
  owner == c.roleModule || owner == c.profileModule

/-- The includes of a role. -/
def roleIncludes (c : Conventions) (s : TokenStream) (b : Block) : List Finding :=
  let name := b.name s
  (b.includedClasses s).filterMap fun i =>
    let target := Name.normalize (s.text i)
    if roleMayInclude c target then none
    else some (.at i s!"role '{name}' includes {target} which is neither a role nor a profile")

/-- A role declares the resource that marks it once. -/
def roleResourceOnce (c : Conventions) (s : TokenStream) (b : Block) : List Finding :=
  let name := b.name s
  let resource := Name.normalize c.roleResource
  if (b.resourcesOf s resource).length = 1 then []
  else [.atStart s!"role '{name}' should declare {resource} once"]

/-- A role declares no other resource. -/
def roleOtherResources (c : Conventions) (s : TokenStream) (b : Block) : List Finding :=
  let name := b.name s
  let resource := Name.normalize c.roleResource
  let others := ((b.declaredResources s).map fun i => Name.normalize (s.text i)).filter
    (· != resource)
  if others.isEmpty then []
  else
    let found := ", ".intercalate others
    [.atStart s!"role '{name}' should not declare resources other than {resource} (found: {found})"]

/-- Only roles declare the resource that marks a role. -/
def roleResourceElsewhere (c : Conventions) (s : TokenStream) (b : Block) : List Finding :=
  let name := b.name s
  (b.resourcesOf s c.roleResource).map fun i =>
    .at i s!"class '{name}' declares {c.roleResource}, which should only be used in roles"

/-- A class includes classes of its own module. -/
def foreignIncludes (s : TokenStream) (b : Block) : List Finding :=
  let name := b.name s
  (b.includedClasses s).filterMap fun i =>
    let target := Name.normalize (s.text i)
    if Name.moduleOf target == b.module s then none
    else some (.at i s!"class '{name}' includes {target} from another module")

/-- A class or a defined type declares classes of its own module. A defined type may also declare a
class whose name has one segment. -/
def foreignDeclarations (s : TokenStream) (b : Block) : List Finding :=
  let label := b.kind.label
  let name := b.name s
  (b.declaredClasses s).filterMap fun i =>
    let target := Name.normalize (s.text i)
    if b.kind.isDefinedType && !Name.isQualified target then none
    else if Name.moduleOf target == b.module s then none
    else some (.at i s!"{label} '{name}' declares class {target} from another module")

/-- No deprecated defined type is declared. -/
def deprecatedDefines (c : Conventions) (s : TokenStream) (b : Block) : List Finding :=
  let label := b.kind.label
  let name := b.name s
  c.deprecatedDefines.filterMap fun define =>
    if (b.resourcesOf s define).isEmpty then none
    else some (.atStart s!"{label} '{name}' declares the deprecated define {define}")

end ManifestLint.Layering
