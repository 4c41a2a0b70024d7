import ManifestLint.Json.Number

/-!
# Lexemes of JSON documents

A document is read in two passes over its parts: characters are cut into lexemes by a machine that
looks at one character at a time, and `Json.Reader` assembles lexemes into a value. A string is
collected in units of sixteen bits or more: an escape may name half of a surrogate pair, and two
halves in a row make one character.
-/
namespace ManifestLint

/-- The smallest meaningful parts of a document. A string or a number without a value is well
formed but denotes nothing. -/
inductive JsonLexeme where
  | lbrace
  | rbrace
  | lbrack
  | rbrack
  | comma
  | colon
  | null
  | bool (value : Bool)
  | num (value : Option JsonNumber)
  | str (value : Option String)
  deriving DecidableEq, Repr

namespace JsonLexeme

/-- The white space of documents. -/
def isBlank (c : Char) : Bool := c == ' ' || c == '\n' || c == '\r' || c == '\t'

/-- The lexeme a punctuation character is. -/
def punctuation? : Char → Option JsonLexeme
  | '{' => some .lbrace
  | '}' => some .rbrace
  | '[' => some .lbrack
  | ']' => some .rbrack
  | ',' => some .comma
  | ':' => some .colon
  | _ => none

/-- The lexeme a word is. -/
def word? : List Char → Option JsonLexeme
  | ['n', 'u', 'l', 'l'] => some .null
  | ['t', 'r', 'u', 'e'] => some (.bool true)
  | ['f', 'a', 'l', 's', 'e'] => some (.bool false)
  | _ => none

/-- The lexeme a number literal is. -/
def number? (text : List Char) : Option JsonLexeme :=
  (NumberLiteral.ofChars? text).map fun literal => .num literal.value?

/-- Whether a unit is the first half of a surrogate pair. -/
def isHighSurrogate (unit : Nat) : Bool := 0xD800 ≤ unit && unit ≤ 0xDBFF

/-- Whether a unit is the second half of a surrogate pair. -/
def isLowSurrogate (unit : Nat) : Bool := 0xDC00 ≤ unit && unit ≤ 0xDFFF

/-- The characters that a list of units writes, unless half a surrogate pair stands alone. -/
def charsOfUnits? : List Nat → Option (List Char)
  | [] => some []
  | high :: low :: rest =>
    if isHighSurrogate high then
      if isLowSurrogate low then
        (charsOfUnits? rest).map
          (Char.ofNat (0x10000 + 0x400 * (high - 0xD800) + (low - 0xDC00)) :: ·)
      else none
    else if isLowSurrogate high then none
    else (charsOfUnits? (low :: rest)).map (Char.ofNat high :: ·)
  | [unit] => if isHighSurrogate unit || isLowSurrogate unit then none else some [Char.ofNat unit]

/-- The character that a one-letter escape stands for. -/
def escaped? : Char → Option Char
  | '"' => some '"'
  | '\\' => some '\\'
  | '/' => some '/'
  | 'b' => some '\x08'
  | 'f' => some '\x0c'
  | 'n' => some '\n'
  | 'r' => some '\r'
  | 't' => some '\t'
  | _ => none

/-- What the machine is in the middle of. Collected parts stand in reverse order. -/
inductive Mode where
  | between
  | word (letters : List Char)
  | number (text : List Char)
  | string (units : List Nat)
  | escape (units : List Nat)
  | hex (units : List Nat) (value : Nat) (missing : Nat)
  deriving DecidableEq, Repr

/-- The machine between two characters: the lexemes so far, in reverse order, and what it is in the
middle of. -/
structure Scan where
  lexemes : List JsonLexeme
  mode : Mode
  deriving Repr

/-- Whether a character may stand in a number literal. -/
def isNumberChar (c : Char) : Bool :=
  c.isDigit || c == '-' || c == '+' || c == '.' || c == 'e' || c == 'E'

namespace Scan

/-- Starts a new lexeme. -/
def start (lexemes : List JsonLexeme) (c : Char) : Option Scan :=
  if isBlank c then some ⟨lexemes, .between⟩
  else if c == '"' then some ⟨lexemes, .string []⟩
  else if c.isDigit || c == '-' then some ⟨lexemes, .number [c]⟩
  else if c.isLower then some ⟨lexemes, .word [c]⟩
  else (punctuation? c).map fun lexeme => ⟨lexeme :: lexemes, .between⟩

/-- Takes in one character; none if no document goes on like this. -/
def step (scan : Scan) (c : Char) : Option Scan :=
  match scan.mode with
  | .between => start scan.lexemes c
  -- A word or a number ends at the first character that cannot belong to it, which starts anew.
  | .word letters =>
    if c.isLower then some ⟨scan.lexemes, .word (c :: letters)⟩
    else do start ((← word? letters.reverse) :: scan.lexemes) c
  | .number text =>
    if isNumberChar c then some ⟨scan.lexemes, .number (c :: text)⟩
    else do start ((← number? text.reverse) :: scan.lexemes) c
  | .string units =>
    if c == '"' then
      some ⟨.str ((charsOfUnits? units.reverse).map String.ofList) :: scan.lexemes, .between⟩
    else if c == '\\' then some ⟨scan.lexemes, .escape units⟩
    else if c.toNat < 0x20 then none
    else some ⟨scan.lexemes, .string (c.toNat :: units)⟩
  | .escape units =>
    if c == 'u' then some ⟨scan.lexemes, .hex units 0 4⟩
    else (escaped? c).map fun plain => ⟨scan.lexemes, .string (plain.toNat :: units)⟩
  | .hex units value missing =>
    (Text.hexValue? c).map fun digit =>
      if missing ≤ 1 then ⟨scan.lexemes, .string ((16 * value + digit) :: units)⟩
      else ⟨scan.lexemes, .hex units (16 * value + digit) (missing - 1)⟩

/-- The lexemes of a text that ends here. -/
def finish (scan : Scan) : Option (List JsonLexeme) :=
  match scan.mode with
  | .between => some scan.lexemes.reverse
  | .word letters => do some ((← word? letters.reverse) :: scan.lexemes).reverse
  | .number text => do some ((← number? text.reverse) :: scan.lexemes).reverse
  | _ => none

end Scan

/-- The lexemes of a text, if it is made of lexemes and white space. -/
def read (text : List Char) : Option (List JsonLexeme) := do
  (← text.foldlM Scan.step ⟨[], .between⟩).finish

end JsonLexeme

end ManifestLint
