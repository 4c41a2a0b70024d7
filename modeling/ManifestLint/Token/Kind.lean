/-!
# Lexical categories

A token file names the category of each token by a tag. Tags outside the table belong to the
category `other`, so a file may hold tokens of a lexer richer than this one.
-/
namespace ManifestLint

/-- The lexical category of a token. -/
inductive TokenKind where
  /-- A bare word, qualified names included. -/
  | name
  /-- A word already recognised as the name of a called function. -/
  | functionName
  /-- A `$variable`. -/
  | variable
  /-- A double-quoted string. -/
  | string
  /-- A single-quoted string. -/
  | quoted
  /-- A regular expression literal. -/
  | regex
  /-- A capitalised type or resource reference. -/
  | classRef
  /-- A numeric literal. -/
  | number
  /-- An opening brace. -/
  | lbrace
  /-- A closing brace. -/
  | rbrace
  /-- An opening parenthesis. -/
  | lparen
  /-- A closing parenthesis. -/
  | rparen
  /-- An opening bracket. -/
  | lbrack
  /-- A closing bracket. -/
  | rbrack
  /-- A comma. -/
  | comma
  /-- The sign between a parameter and its default. -/
  | equals
  /-- The fat arrow of hashes and attributes. -/
  | farrow
  /-- A single colon. -/
  | colon
  /-- A semicolon. -/
  | semicolon
  /-- The keyword `class`. -/
  | classKw
  /-- The keyword `define`. -/
  | defineKw
  /-- The keyword `node`. -/
  | nodeKw
  /-- The keyword `inherits`. -/
  | inheritsKw
  /-- The keyword `if`. -/
  | ifKw
  /-- The keyword `elsif`. -/
  | elsifKw
  /-- The keyword `else`. -/
  | elseKw
  /-- The keyword `unless`. -/
  | unlessKw
  /-- The keyword `case`. -/
  | caseKw
  /-- The keyword `default`. -/
  | defaultKw
  /-- The literal `true`. -/
  | trueKw
  /-- The literal `false`. -/
  | falseKw
  /-- The literal `undef`. -/
  | undefKw
  /-- Spaces and tabs. -/
  | whitespace
  /-- A line break. -/
  | newline
  /-- Leading indentation. -/
  | indent
  /-- A comment that starts with a hash. -/
  | comment
  /-- A comment between delimiters. -/
  | blockComment
  /-- A comment that starts with two slashes. -/
  | slashComment
  /-- Anything the linter never looks at. -/
  | other
  deriving DecidableEq, Repr, Inhabited

namespace TokenKind

/-- Every category, in the order of the type. -/
def all : List TokenKind := [
  .name, .functionName, .variable, .string, .quoted, .regex, .classRef, .number, .lbrace,
  .rbrace, .lparen, .rparen, .lbrack, .rbrack, .comma, .equals, .farrow, .colon, .semicolon,
  .classKw, .defineKw, .nodeKw, .inheritsKw, .ifKw, .elsifKw, .elseKw, .unlessKw, .caseKw,
  .defaultKw, .trueKw, .falseKw, .undefKw, .whitespace, .newline, .indent, .comment,
  .blockComment, .slashComment, .other]

/-- The tag by which token files name a category. -/
def tag : TokenKind → String
  | .name => "NAME"
  | .functionName => "FUNCTION_NAME"
  | .variable => "VARIABLE"
  | .string => "STRING"
  | .quoted => "SSTRING"
  | .regex => "REGEX"
  | .classRef => "CLASSREF"
  | .number => "NUMBER"
  | .lbrace => "LBRACE"
  | .rbrace => "RBRACE"
  | .lparen => "LPAREN"
  | .rparen => "RPAREN"
  | .lbrack => "LBRACK"
  | .rbrack => "RBRACK"
  | .comma => "COMMA"
  | .equals => "EQUALS"
  | .farrow => "FARROW"
  | .colon => "COLON"
  | .semicolon => "SEMIC"
  | .classKw => "CLASS"
  | .defineKw => "DEFINE"
  | .nodeKw => "NODE"
  | .inheritsKw => "INHERITS"
  | .ifKw => "IF"
  | .elsifKw => "ELSIF"
  | .elseKw => "ELSE"
  | .unlessKw => "UNLESS"
  | .caseKw => "CASE"
  | .defaultKw => "DEFAULT"
  | .trueKw => "TRUE"
  | .falseKw => "FALSE"
  | .undefKw => "UNDEF"
  | .whitespace => "WHITESPACE"
  | .newline => "NEWLINE"
  | .indent => "INDENT"
  | .comment => "COMMENT"
  | .blockComment => "MLCOMMENT"
  | .slashComment => "SLASH_COMMENT"
  | .other => "OTHER"

/-- The category a tag names; an unknown tag names `other`. -/
def ofTag (tag : String) : TokenKind :=
  (all.find? fun kind => kind.tag == tag).getD .other

/-- Layout: white space and comments, which no rule looks at. -/
def isFormatting : TokenKind → Bool
  | .whitespace | .newline | .indent | .comment | .blockComment | .slashComment => true
  | _ => false

theorem mem_all (kind : TokenKind) : kind ∈ all := by
  cases kind <;> decide

/-- Tags are distinct, so a category is recovered from its own tag. -/
@[simp] theorem ofTag_tag (kind : TokenKind) : ofTag kind.tag = kind := by
  cases kind <;> decide

theorem tag_injective {first second : TokenKind} (same : first.tag = second.tag) :
    first = second := by
  rw [← ofTag_tag first, same, ofTag_tag]

end TokenKind

end ManifestLint
