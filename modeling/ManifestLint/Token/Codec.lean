import ManifestLint.Json.Reader
import ManifestLint.Json.Writer
import ManifestLint.Token.Stream

/-!
# Token files

A token file is a JSON array of objects, one for each token. The names `kind`, `text`, `line` and
`column` must each occur once, with a string or an unsigned integer of 64 bits; every other member
is kept with the token and written back after these four, in increasing order of name.
-/
namespace ManifestLint

/-- The members of a token object that the linter reads. -/
def tokenFields : List String := ["kind", "text", "line", "column"]

namespace Json

/-- The member of a given name, if there is exactly one. -/
def only? (name : String) (members : List (String × Json)) : Option Json :=
  match named name members with
  | [value] => some value
  | _ => none

end Json

namespace Token

/-- Reads a token object. -/
def ofJson? : Json → Option Token
  | .obj members => do
    let tag ← (← Json.only? "kind" members).asString?
    let text ← (← Json.only? "text" members).asString?
    let line ← (← Json.only? "line" members).asNat?
    let column ← (← Json.only? "column" members).asNat?
    let others := members.filter fun member => !tokenFields.contains member.1
    some {
      kind := .ofTag tag, text, line, column, tag
      extra := Json.sortMembers (Json.canonicalMembers others) }
  | _ => none

/-- The object a token is written as. -/
def toJson (token : Token) : Json :=
  .obj ([("kind", .str token.writtenTag), ("text", .str token.text),
    ("line", .nat token.line), ("column", .nat token.column)] ++ token.extra)

end Token

namespace TokenStream

/-- Reads an array of token objects. -/
def ofJson? (value : Json) : Option TokenStream := do
  some (ofList (← (← value.asArray?).mapM Token.ofJson?))

/-- The array a stream is written as. -/
def toJson (s : TokenStream) : Json := .arr (s.tokens.toList.map Token.toJson)

/-- Reads a token file. -/
def decode? (text : String) : Option TokenStream := do
  ofJson? (← Json.parseKept? text)

/-- The compact text of a token file. -/
def encode (s : TokenStream) : String := s.toJson.toCompact

/-- The pretty text of a token file, the form in which files are written back. -/
def encodePretty (s : TokenStream) : String := s.toJson.toPretty

end TokenStream

end ManifestLint
