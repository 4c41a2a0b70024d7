import ManifestLint.Layering.DataAccess
import ManifestLint.Layering.Dependency
import ManifestLint.Layering.NodeBlock

/-!
# The layering rule

Nodes pick a role, roles compose profiles, profiles fetch data and configure plain modules. Every
block of a file is put into its layer and held to the conventions of that layer.
-/
namespace ManifestLint.Layering

/-- What is asked of every class and defined type. -/
def deprecations (c : Conventions) (s : TokenStream) (b : Block) : List Finding :=
  withoutLegacyValidates s b ++ deprecatedDefines c s b

/-- What is asked of the blocks of a layer. -/
def layerFindings (c : Conventions) (s : TokenStream) (b : Block) : Layer → List Finding
  | .profile =>
    parameterDefaults s b ++ lookupsOutsideDefaults s b ++ profileIncludes c s b
      ++ roleResourceElsewhere c s b
  | .role =>
    withoutLookups s b ++ roleIncludes c s b ++ roleResourceOnce c s b ++ roleOtherResources c s b
  | .plainClass =>
    withoutLookups s b ++ foreignIncludes s b ++ foreignDeclarations s b
      ++ roleResourceElsewhere c s b
  | .definedType =>
    withoutLookups s b
      ++ if b.module s == c.profileModule then [] else foreignDeclarations s b
  | .node => nodeBody c s b ++ nodeTitles c s b

/-- The findings of a block. -/
def blockFindings (c : Conventions) (s : TokenStream) (b : Block) : List Finding :=
  layerFindings c s b (b.layer s c) ++ if b.kind.isNode then [] else deprecations c s b

/-- The findings of a file: those of its definitions, then those of its nodes. -/
def findings (c : Conventions) (ctx : FileContext) : List Finding :=
  (ctx.definitions ++ ctx.nodes).flatMap (blockFindings c ctx.stream)

/-- What the rule is called. -/
def info : RuleInfo where
  name := "wmf-styleguide"
  code := "WS001"
  description := "Enforces the profile/role architecture and node conventions"

/-- The violations of a file. -/
def check (c : Conventions) (ctx : FileContext) : List Violation :=
  (findings c ctx).map (Finding.violation ctx info)

/-- The edit that resolves a violation of a node pattern. -/
def fix (domains : List String) (s : TokenStream) (v : Violation) : Except FixError Edit :=
  match v.fixTag with
  | none => .error (.notFixable v.message)
  | some tag =>
    match Repair.ofTag? tag with
    | none => .error (.unsupported tag)
    | some repair =>
      match v.token with
      | none => .error (.missingToken v.message)
      | some i =>
        match s.token? i with
        | none => .error (.tokenOutOfRange i)
        | some token =>
          if token.kind = .regex then .ok ⟨i, repair.apply domains token.text⟩
          else .error (.wrongToken i tag)

/-- The rule with the conventions of an organisation. -/
def rule (c : Conventions) : Rule where
  toRuleInfo := info
  check := check c
  fix := fix c.disallowedDomains

end ManifestLint.Layering
