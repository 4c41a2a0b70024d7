import ManifestLint.Layering.Finding

/-!
# What a node may say

A node only assigns a role: its body may declare a few allowed resources and nothing else. Its
titles are regular expressions that are anchored at the start, not anchored at the end, and free of
the domains that every host shares.
-/
namespace ManifestLint.Layering

/-- What a token in the body of a node breaks. The first of the cases that applies decides. -/
def nodeStatement (c : Conventions) (s : TokenStream) (title : String) (i : Nat) : Option Finding :=
  if s.isLookup i then some (.at i s!"Found lookup call in node '{title}'")
  else if s.isLegacyLookup i then
    some (.at i s!"Found deprecated {s.text i} call in node '{title}'")
  else match s.includedClass? i with
    | some target =>
      let name := Name.normalize (s.text target)
      some (.at target s!"node '{title}' includes class {name}")
    | none =>
      match s.declaredClass? i with
      | some target =>
        let name := Name.normalize (s.text target)
        some (.at target s!"node '{title}' declares class {name}")
      | none =>
        -- Last comes the type of a resource that no call and no class explains.
        let resource := Name.normalize (s.text i)
        if s.isResourceType i && !c.nodeAllowedResources.contains resource then
          some (.at i s!"node '{title}' declares {resource}")
        else none

/-- What the tokens of a node break. -/
def nodeBody (c : Conventions) (s : TokenStream) (b : Block) : List Finding :=
  (b.positions s).filterMap (nodeStatement c s (b.title s))

/-- A pattern is anchored at the start. -/
def startProblem (i : Nat) (text : String) : List Finding :=
  if NodePattern.isStartAnchored (NodePattern.split text.toList).2 then []
  else [.fixable i s!"node regex must match from the start, add ^: {text}" .anchorStart]

/-- A pattern is not anchored at the end. -/
def endProblem (i : Nat) (text : String) : List Finding :=
  if NodePattern.isEndAnchored (NodePattern.split text.toList).2 then
    [.fixable i s!"node regex must not be anchored at the end, remove $: {text}" .dropEndAnchor]
  else []

/-- A pattern does not spell out a domain. The repair is offered where it changes something. -/
def domainProblem (c : Conventions) (i : Nat) (text : String) : List Finding :=
  match NodePattern.domainIn? c.disallowedDomains (NodePattern.split text.toList).2 with
  | none => []
  | some domain =>
    let message := s!"node regex must not contain the {domain} domain: {text}"
    if Repair.stripDomain.apply c.disallowedDomains text == text then [.at i message]
    else [.fixable i message .stripDomain]

/-- What a title of a node breaks. -/
def nodeTitle (c : Conventions) (s : TokenStream) (i : Nat) : List Finding :=
  let text := s.text i
  if s.isKind i .regex then startProblem i text ++ endProblem i text ++ domainProblem c i text
  else [.at i s!"node definition must use a regex, got: {text}"]

/-- What the titles of a node break. -/
def nodeTitles (c : Conventions) (s : TokenStream) (b : Block) : List Finding :=
  (b.titleTokens s).flatMap (nodeTitle c s)

end ManifestLint.Layering
