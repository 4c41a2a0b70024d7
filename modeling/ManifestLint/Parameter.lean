import ManifestLint.Token.Stream

/-!
# Parameter lists

The tokens between the parentheses of a class or a defined type are read in one pass. A value runs
from an equals sign to the next comma outside the brackets opened since, so a nested call stays in
one value and variables inside a value are part of it. A repeated name keeps the token that declared
it first and takes the later value.
-/
namespace ManifestLint

/-- A declared parameter: its name without sigils, the token that declared it first, and the code
tokens of its default. -/
structure Parameter where
  name : String
  token : Nat
  value : List Nat
  deriving DecidableEq, Repr

namespace Parameter

/-- Whether a default was given. -/
def hasDefault (p : Parameter) : Bool := !p.value.isEmpty

/-- The name of a variable: its text without leading sigils. -/
def nameOf (text : String) : String := String.ofList (text.toList.dropWhile (· == '$'))

end Parameter

/-- Parameters in the order of their first declaration, no two of the same name. -/
abbrev Parameters := List Parameter

namespace Parameters

/-- The parameter of a given name. -/
def get? (params : Parameters) (name : String) : Option Parameter :=
  params.find? fun p => p.name == name

/-- Whether a token belongs to the default of some parameter. -/
def inDefault (params : Parameters) (token : Nat) : Bool :=
  params.any fun p => p.value.contains token

/-- Declares a name; a name declared before stays as it is. -/
def declare (params : Parameters) (name : String) (token : Nat) : Parameters :=
  if (params.get? name).isSome then params else params ++ [⟨name, token, []⟩]

/-- Changes the value of the parameter of a given name. -/
def updateValue (params : Parameters) (name : String) (f : List Nat → List Nat) : Parameters :=
  params.map fun p => if p.name == name then { p with value := f p.value } else p

end Parameters

/-- The state of reading a parameter list: the parameters so far, the name that a value belongs to,
whether an equals sign has been seen since the last comma, and how many brackets are open in the
value. -/
structure ParameterScan where
  params : Parameters
  current : Option String
  inValue : Bool
  depth : Nat
  deriving DecidableEq, Repr

namespace ParameterScan

/-- Whether a token opens a bracket of any shape. -/
def opens (kind : TokenKind) : Bool := kind == .lparen || kind == .lbrack || kind == .lbrace

/-- Whether a token closes a bracket of any shape. -/
def closes (kind : TokenKind) : Bool := kind == .rparen || kind == .rbrack || kind == .rbrace

/-- Adds a token to the value that is being read, if it belongs to a name. -/
def push (scan : ParameterScan) (i : Nat) : ParameterScan :=
  match scan.current with
  | none => scan
  | some name => { scan with params := scan.params.updateValue name (· ++ [i]) }

/-- Takes in a code token outside a value. -/
def stepHead (scan : ParameterScan) (i : Nat) (token : Token) : ParameterScan :=
  match token.kind with
  | .variable =>
    let name := Parameter.nameOf token.text
    { scan with params := scan.params.declare name i, current := some name }
  | .comma => { scan with current := none }
  | .equals =>
    match scan.current with
    | none => { scan with inValue := true }
    | some name =>
      -- A later value takes the place of an earlier one.
      { scan with params := scan.params.updateValue name fun _ => [], inValue := true }
  | _ => scan

/-- Takes in a code token inside a value. -/
def stepValue (scan : ParameterScan) (i : Nat) (token : Token) : ParameterScan :=
  -- A comma ends the value only outside the brackets opened in it.
  if scan.depth = 0 && token.kind == .comma then { scan with current := none, inValue := false }
  else
    -- A closing bracket that matches none leaves the depth at zero.
    let depth :=
      if opens token.kind then scan.depth + 1
      else if closes token.kind then scan.depth - 1
      else scan.depth
    { scan with depth }.push i

/-- Takes in a token; layout is passed over. -/
def step (scan : ParameterScan) (i : Nat) (token : Token) : ParameterScan :=
  if token.kind.isFormatting then scan
  else if scan.inValue then scan.stepValue i token
  else scan.stepHead i token

/-- Reads the tokens at the given positions up to the first that holds none. -/
def run (s : TokenStream) (scan : ParameterScan) : List Nat → ParameterScan
  | [] => scan
  | i :: rest =>
    match s.token? i with
    | none => scan
    | some token => run s (scan.step i token) rest

end ParameterScan

/-- The parameters that the tokens at the given positions declare. -/
def TokenStream.parameters (s : TokenStream) (positions : List Nat) : Parameters :=
  (ParameterScan.run s ⟨[], none, false, 0⟩ positions).params

end ManifestLint
