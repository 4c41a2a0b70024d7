import ManifestLint.Json.Record

/-!
# The conventions of an organisation

Which modules hold profiles and roles, and what is allowed or disallowed where. The lists of names
are compared with names that have lost their leading `::`.
-/
namespace ManifestLint

/-- Module names and lists of allowed and disallowed names. -/
structure Conventions where
  /-- The module that holds profiles. -/
  profileModule : String := "profile"
  /-- The module that holds roles. -/
  roleModule : String := "role"
  /-- The modules a profile may include from, besides the one that holds profiles. -/
  profileIncludeModules : List String := ["passwords"]
  /-- The classes a profile may include from any module. -/
  profileIncludeClasses : List String := ["lvs::realserver"]
  /-- The type of resource that marks a role. -/
  roleResource : String := "system::role"
  /-- The defined types that must no longer be declared. -/
  deprecatedDefines : List String := ["base::service_unit"]
  /-- The types of resource a node may still declare. -/
  nodeAllowedResources : List String := ["interface::add_ip6_mapped"]
  /-- The domains that the pattern of a node must not spell out. -/
  disallowedDomains : List String := ["wmnet", "wikimedia.org"]
  deriving DecidableEq, Repr, Inhabited

namespace Conventions

/-- The names of the fields of conventions in files, in order. -/
def fieldNames : List String :=
  ["profile_module", "role_module", "profile_include_modules", "profile_include_classes",
   "role_resource", "deprecated_defines", "node_allowed_resources", "disallowed_node_domains"]

/-- Reads conventions; what is left out is as usual, and other fields are passed over. -/
def ofJson? (value : Json) : Option Conventions := do
  let fields ← value.fields? fieldNames
  let usual : Conventions := {}
  some {
    profileModule := ← fields.optional "profile_module" Json.asString? usual.profileModule
    roleModule := ← fields.optional "role_module" Json.asString? usual.roleModule
    profileIncludeModules :=
      ← fields.optional "profile_include_modules" Json.asStrings? usual.profileIncludeModules
    profileIncludeClasses :=
      ← fields.optional "profile_include_classes" Json.asStrings? usual.profileIncludeClasses
    roleResource := ← fields.optional "role_resource" Json.asString? usual.roleResource
    deprecatedDefines :=
      ← fields.optional "deprecated_defines" Json.asStrings? usual.deprecatedDefines
    nodeAllowedResources :=
      ← fields.optional "node_allowed_resources" Json.asStrings? usual.nodeAllowedResources
    disallowedDomains :=
      ← fields.optional "disallowed_node_domains" Json.asStrings? usual.disallowedDomains }

end Conventions

end ManifestLint
