import ManifestLint.Json.Basic
import ManifestLint.Token.Kind

/-!
# Tokens

A token keeps the tag and the further fields it was read with, so that a file written back differs
from the file read only where a token's text was changed.
-/
namespace ManifestLint

/-- One lexical unit of a manifest. Lines and columns count from one. -/
structure Token where
  kind : TokenKind
  /-- The value of the token: strings and regular expressions stand without their quotes. -/
  text : String
  line : Nat
  column : Nat
  /-- The tag the token was read with. -/
  tag : String
  /-- The fields the linter does not look at, in increasing order of name. -/
  extra : List (String × Json)
  deriving BEq, Repr, Inhabited

namespace Token

/-- A token that was not read from a file: its tag is that of its kind. -/
def new (kind : TokenKind) (text : String) (line column : Nat) : Token :=
  ⟨kind, text, line, column, kind.tag, []⟩

/-- The tag a token is written with: the one it was read with, unless that no longer names the
token's kind. -/
def writtenTag (token : Token) : String :=
  if TokenKind.ofTag token.tag = token.kind then token.tag else token.kind.tag

/-- Whatever tag is written, it names the token's kind. -/
@[simp] theorem ofTag_writtenTag (token : Token) :
    TokenKind.ofTag token.writtenTag = token.kind := by
  unfold writtenTag
  split
  · assumption
  · exact TokenKind.ofTag_tag _

theorem writtenTag_eq_tag_iff (token : Token) :
    token.writtenTag = token.tag ↔ TokenKind.ofTag token.tag = token.kind := by
  unfold writtenTag
  split
  next same => simp [same]
  next differs =>
    refine ⟨fun equal => ?_, fun same => absurd same differs⟩
    rw [← equal, TokenKind.ofTag_tag]

end Token

/-- A replacement for the text of one token. -/
structure Edit where
  /-- The position of the token. -/
  token : Nat
  newText : String
  deriving DecidableEq, Repr

end ManifestLint
