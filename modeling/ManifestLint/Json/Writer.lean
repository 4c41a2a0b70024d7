import ManifestLint.Json.Lexeme

/-!
# Writing JSON documents

The compact form has no white space. The pretty form puts every item and every member on a line of
its own, indented by two blanks for each open container, and leaves empty containers closed. Members
are written in the order of the value.
-/
namespace ManifestLint.Json

/-- One character inside a string: quotes, backslashes and control characters are escaped. -/
def escapeChar (c : Char) : List Char :=
  if c == '"' then ['\\', '"']
  else if c == '\\' then ['\\', '\\']
  else if c == '\x08' then ['\\', 'b']
  else if c == '\x0c' then ['\\', 'f']
  else if c == '\n' then ['\\', 'n']
  else if c == '\r' then ['\\', 'r']
  else if c == '\t' then ['\\', 't']
  else if c.toNat < 0x20 then
    ['\\', 'u', '0', '0', Text.hexDigit (c.toNat / 16), Text.hexDigit (c.toNat % 16)]
  else [c]

/-- A string between quotes. -/
def quote (s : String) : List Char :=
  '"' :: (s.toList.flatMap escapeChar ++ ['"'])

/-- A value that holds no others. Nothing is written for an unreadable value but `null`. -/
def scalarText : Json → List Char
  | .bool true => ['t', 'r', 'u', 'e']
  | .bool false => ['f', 'a', 'l', 's', 'e']
  | .num n => n.text
  | .str s => quote s
  | _ => ['n', 'u', 'l', 'l']

mutual

/-- The compact form. -/
def compact : Json → List Char
  | .arr items => '[' :: (compactItems items ++ [']'])
  | .obj members => '{' :: (compactMembers members ++ ['}'])
  | value => scalarText value

/-- The items of an array, separated by commas. -/
def compactItems : List Json → List Char
  | [] => []
  | [x] => compact x
  | x :: xs => compact x ++ ',' :: compactItems xs

/-- The members of an object, separated by commas. -/
def compactMembers : List (String × Json) → List Char
  | [] => []
  | [(name, x)] => quote name ++ ':' :: compact x
  | (name, x) :: xs => quote name ++ ':' :: (compact x ++ ',' :: compactMembers xs)

end

/-- A new line indented for a number of open containers. -/
def newline (indent : Nat) : List Char := '\n' :: List.replicate (2 * indent) ' '

mutual

/-- The pretty form inside a number of open containers. -/
def pretty (indent : Nat) : Json → List Char
  | .arr [] => ['[', ']']
  | .arr items => '[' :: (prettyItems (indent + 1) items ++ newline indent ++ [']'])
  | .obj [] => ['{', '}']
  | .obj members => '{' :: (prettyMembers (indent + 1) members ++ newline indent ++ ['}'])
  | value => scalarText value

/-- The items of an array, each on its line. -/
def prettyItems (indent : Nat) : List Json → List Char
  | [] => []
  | [x] => newline indent ++ pretty indent x
  | x :: xs => newline indent ++ pretty indent x ++ ',' :: prettyItems indent xs

/-- The members of an object, each on its line. -/
def prettyMembers (indent : Nat) : List (String × Json) → List Char
  | [] => []
  | [(name, x)] => newline indent ++ quote name ++ ':' :: ' ' :: pretty indent x
  | (name, x) :: xs =>
    newline indent ++ quote name ++ ':' :: ' ' ::
      (pretty indent x ++ ',' :: prettyMembers indent xs)

end

/-- The compact text of a value. -/
def toCompact (value : Json) : String := String.ofList value.compact

/-- The pretty text of a value. -/
def toPretty (value : Json) : String := String.ofList (value.pretty 0)

end ManifestLint.Json
