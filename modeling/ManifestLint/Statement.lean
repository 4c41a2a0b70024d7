import ManifestLint.Token.Stream

/-!
# Statements recognised by their surroundings

What a token means is decided by its kind, its text and its neighbouring code tokens. A neighbour
that is missing, at either end of the stream, never makes a match.
-/
namespace ManifestLint

/-- The function that fetches data. -/
def lookupFunction : String := "lookup"

/-- The deprecated functions that fetch data. -/
def legacyLookupFunctions : List String := ["hiera", "hiera_array", "hiera_hash"]

/-- The words that include a class. -/
def includeWords : List String := ["include", "require", "contain"]

/-- How the names of the legacy validation functions begin. -/
def validatePrefix : List Char := "validate_".toList

namespace TokenStream

variable (s : TokenStream)

/-- A name before an opening parenthesis. -/
def isFunctionCall (i : Nat) : Bool :=
  (s.isKind i .name || s.isKind i .functionName) && s.nextIs i .lparen

/-- A call of the function that fetches data. -/
def isLookup (i : Nat) : Bool := s.isFunctionCall i && s.text i == lookupFunction

/-- A call of a deprecated function that fetches data. -/
def isLegacyLookup (i : Nat) : Bool :=
  s.isFunctionCall i && legacyLookupFunctions.contains (s.text i)

/-- A call of a legacy validation function. -/
def isLegacyValidate (i : Nat) : Bool :=
  s.isFunctionCall i && validatePrefix.isPrefixOf (s.text i).toList

/-- A word that includes a class. Before a fat arrow it is the key of an attribute. -/
def isInclude (i : Nat) : Bool :=
  s.isKind i .name && includeWords.contains (s.text i) &&
    (s.next? i).any fun next => !s.isKind next .farrow

/-- The token that names the class an include statement pulls in, behind an opening parenthesis if
there is one. -/
def includedClass? (i : Nat) : Option Nat :=
  if s.isInclude i then
    (s.next? i).bind fun next => if s.isKind next .lparen then s.next? next else some next
  else none

/-- The token that names the class a resource-like declaration declares. -/
def declaredClass? (i : Nat) : Option Nat :=
  if s.isKind i .classKw && s.nextIs i .lbrace then (s.next? i).bind s.next? else none

/-- The keywords whose next name heads a definition. -/
def headKeywords : List TokenKind := [.classKw, .defineKw, .nodeKw, .inheritsKw]

/-- A name before an opening brace that is not the head of a definition: the type of a declared
resource. -/
def isResourceType (i : Nat) : Bool :=
  s.isKind i .name && s.nextIs i .lbrace && !headKeywords.any (s.prevIs i ·)

/-- A literal that may be part of the title of a node. -/
def isNodeTitle (i : Nat) : Bool :=
  s.isKind i .string || s.isKind i .quoted || s.isKind i .name || s.isKind i .regex

end TokenStream

end ManifestLint
