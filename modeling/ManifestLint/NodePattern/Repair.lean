import ManifestLint.NodePattern.Basic

/-!
# Repairs of node patterns

Each of the three problems of a pattern has its own repair, so that a violation can be resolved by
itself. Slashes around a pattern are kept.
-/
namespace ManifestLint

/-- The repairs of node patterns. -/
inductive Repair where
  /-- Put the missing `^` in front. -/
  | anchorStart
  /-- Drop the dollar signs at the end. -/
  | dropEndAnchor
  /-- Strip the domain off the end. -/
  | stripDomain
  deriving DecidableEq, Repr

namespace Repair

/-- Every repair, in the order in which problems are looked for. -/
def all : List Repair := [.anchorStart, .dropEndAnchor, .stripDomain]

/-- The tag by which a violation names its repair. -/
def tag : Repair → String
  | .anchorStart => "node_regex_start"
  | .dropEndAnchor => "node_regex_end"
  | .stripDomain => "node_regex_domain"

/-- The repair of a tag. -/
def ofTag? (tag : String) : Option Repair := all.find? fun repair => repair.tag == tag

@[simp] theorem ofTag?_tag (repair : Repair) : ofTag? repair.tag = some repair := by
  cases repair <;> decide

/-- What a repair does to the body of a pattern. -/
def applyBody (repair : Repair) (domains : List String) (body : List Char) : List Char :=
  match repair with
  | .anchorStart => NodePattern.anchorStart body
  | .dropEndAnchor => NodePattern.dropEndAnchors body
  | .stripDomain => NodePattern.stripDomains domains body

/-- What a repair does to the text of a pattern. -/
def apply (repair : Repair) (domains : List String) (text : String) : String :=
  let (delimited, body) := NodePattern.split text.toList
  String.ofList (NodePattern.join delimited (repair.applyBody domains body))

end Repair

/-- Every repair, one after the other. -/
def NodePattern.normalize (domains : List String) (text : String) : String :=
  Repair.all.foldl (fun text repair => repair.apply domains text) text

end ManifestLint
