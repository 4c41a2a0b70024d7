import ManifestLint.Json.Lexeme

/-!
# Reading JSON documents

The second pass over a document: lexemes are assembled into a value by a machine that keeps the
containers still open on a stack. The grammar is strict: no trailing commas, nothing but white
space after the value.
-/
namespace ManifestLint.Json

/-- A member of an object as it is read. A name that is well formed may still denote nothing. -/
abbrev ReadMember := Option String × Json

/-- The object with the given members. It denotes nothing if one of the names does not. -/
def objectOf (members : List ReadMember) : Json :=
  let named? : ReadMember → Option (String × Json)
    | (name, value) => name.map (·, value)
  (members.mapM named?).elim .unreadable .obj

/-- An open container: what it holds so far, in reverse order, and for an object the name whose
value comes next. -/
inductive Frame where
  | array (items : List Json)
  | object (members : List ReadMember) (name : Option String)
  deriving Repr

/-- What may come next. -/
inductive Expect where
  /-- A value. -/
  | value
  /-- The first item of an array, or its end. -/
  | item
  /-- The first name of an object, or its end. -/
  | nameOrEnd (members : List ReadMember)
  /-- The next name of an object. -/
  | name (members : List ReadMember)
  /-- The colon after a name. -/
  | colon
  /-- A comma, or the end of the innermost container. -/
  | comma
  /-- Nothing: the value is complete. -/
  | nothing (value : Json)
  deriving Repr

/-- The machine between two lexemes. -/
structure Assembly where
  stack : List Frame
  expect : Expect
  deriving Repr

namespace Assembly

/-- Hands a finished value to the innermost open container. -/
def deliver (value : Json) : List Frame → Assembly
  | [] => ⟨[], .nothing value⟩
  | .array items :: rest => ⟨.array (value :: items) :: rest, .comma⟩
  | .object members name :: rest => ⟨.object ((name, value) :: members) name :: rest, .comma⟩

/-- Takes in a lexeme where a value may stand. -/
def value (stack : List Frame) : JsonLexeme → Option Assembly
  | .null => some (deliver .null stack)
  | .bool b => some (deliver (.bool b) stack)
  | .num n => some (deliver (n.elim .unreadable .num) stack)
  | .str s => some (deliver (s.elim .unreadable .str) stack)
  | .lbrack => some ⟨.array [] :: stack, .item⟩
  | .lbrace => some ⟨stack, .nameOrEnd []⟩
  | _ => none

/-- Takes in one lexeme; none if no document goes on like this. -/
def step (machine : Assembly) (lexeme : JsonLexeme) : Option Assembly :=
  match machine.expect, lexeme with
  | .value, lexeme => value machine.stack lexeme
  | .item, .rbrack =>
    match machine.stack with
    | .array items :: rest => some (deliver (.arr items.reverse) rest)
    | _ => none
  | .item, lexeme => value machine.stack lexeme
  | .nameOrEnd members, .rbrace => some (deliver (objectOf members.reverse) machine.stack)
  | .nameOrEnd members, .str name | .name members, .str name =>
    some ⟨.object members name :: machine.stack, .colon⟩
  | .colon, .colon => some ⟨machine.stack, .value⟩
  -- Behind a comma neither an end nor another comma may follow.
  | .comma, .comma =>
    match machine.stack with
    | .array items :: rest => some ⟨.array items :: rest, .value⟩
    | .object members _ :: rest => some ⟨rest, .name members⟩
    | [] => none
  | .comma, .rbrack =>
    match machine.stack with
    | .array items :: rest => some (deliver (.arr items.reverse) rest)
    | _ => none
  | .comma, .rbrace =>
    match machine.stack with
    | .object members _ :: rest => some (deliver (objectOf members.reverse) rest)
    | _ => none
  | _, _ => none

/-- The value of a document that ends here. -/
def finish (machine : Assembly) : Option Json :=
  match machine.expect with
  | .nothing value => some value
  | _ => none

end Assembly

/-- The value that a list of lexemes writes. -/
def ofLexemes? (lexemes : List JsonLexeme) : Option Json := do
  (← lexemes.foldlM Assembly.step ⟨[], .value⟩).finish

/-- Reads a document. -/
def parse? (text : String) : Option Json := do
  ofLexemes? (← JsonLexeme.read text.toList)

/-- Containers may be nested this deep in a document that is kept as a value. -/
def depthLimit : Nat := 127

/-- Reads a document all of whose parts are to be kept: each must denote something, and nesting is
limited. -/
def parseKept? (text : String) : Option Json := do
  let value ← parse? text
  if value.isReadable && value.depth ≤ depthLimit then some value else none

end ManifestLint.Json
