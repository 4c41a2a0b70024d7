import ManifestLint.Text.Alphabetic
import ManifestLint.Text.Numeric
import ManifestLint.Text.Uppercase
import ManifestLint.Token.Stream

/-!
# Cutting manifest text into tokens

The lexer knows enough of the language to turn source text into a stream: it has no heredocs and no
interpolation, and a slash always opens a regular expression. It never fails; a character it does
not know is a token of kind `other`. Each step cuts a non-empty slice off the text, and the slices
of all tokens put together are the text (`piece_cuts`).
-/
namespace ManifestLint.Lexer

/-- One step of the lexer: the kind and the value of a token, the slice of text it was cut from, and
the text that is left. -/
structure Piece where
  kind : TokenKind
  text : List Char
  slice : List Char
  rest : List Char

/-- The characters of names after the first. -/
def isNameChar (c : Char) : Bool :=
  Text.isAlphabetic c || Text.isNumeric c || c == '_' || c == ':'

/-- Blanks within a line. -/
def isBlank (c : Char) : Bool := c == ' ' || c == '\t' || c == '\r'

/-- The kind of a keyword. -/
def keyword? (word : String) : Option TokenKind :=
  [("class", .classKw), ("define", .defineKw), ("node", .nodeKw), ("inherits", .inheritsKw),
   ("if", .ifKw), ("elsif", .elsifKw), ("else", .elseKw), ("unless", .unlessKw),
   ("case", .caseKw), ("default", .defaultKw), ("true", .trueKw), ("false", .falseKw),
   ("undef", .undefKw)].lookup word

/-- The kind of a word: a keyword, a reference if it is capitalised after its leading colons, or a
name. -/
def wordKind (word : List Char) : TokenKind :=
  match keyword? (String.ofList word) with
  | some kind => kind
  | none =>
    if ((word.dropWhile (· == ':')).head?).any Text.isUppercase then .classRef else .name

/-- The text up to the closing quote, and the text from that quote on. A backslash takes the next
character with it. -/
def untilQuote (quote : Char) : List Char → List Char × List Char
  | [] => ([], [])
  | ['\\'] => (['\\'], [])
  | '\\' :: c :: rest =>
    let (inside, after) := untilQuote quote rest
    ('\\' :: c :: inside, after)
  | c :: rest =>
    if c = quote then ([], c :: rest)
    else
      let (inside, after) := untilQuote quote rest
      (c :: inside, after)

/-- A token of one character. -/
def single (kind : TokenKind) (c : Char) (cs : List Char) : Piece := ⟨kind, [c], [c], cs⟩

/-- A token of two characters. -/
def double (kind : TokenKind) (c d : Char) (cs : List Char) : Piece := ⟨kind, [c, d], [c, d], cs⟩

/-- A character and the longest run of characters of a class after it. -/
def run (kind : TokenKind) (p : Char → Bool) (c : Char) (cs : List Char) : Piece :=
  ⟨kind, c :: cs.takeWhile p, c :: cs.takeWhile p, cs.dropWhile p⟩

/-- A word. -/
def word (c : Char) (cs : List Char) : Piece :=
  run (wordKind (c :: cs.takeWhile isNameChar)) isNameChar c cs

/-- A literal between two quotes; at the end of the text the closing one may be missing. -/
def literal (kind : TokenKind) (quote : Char) (cs : List Char) : Piece :=
  match untilQuote quote cs with
  | (inside, []) => ⟨kind, inside, quote :: inside, []⟩
  | (inside, close :: rest) => ⟨kind, inside, quote :: (inside ++ [close]), rest⟩

/-- The kinds of the characters that are tokens by themselves. -/
def punctuation? : Char → Option TokenKind
  | '\n' => some .newline
  | '{' => some .lbrace
  | '}' => some .rbrace
  | '(' => some .lparen
  | ')' => some .rparen
  | '[' => some .lbrack
  | ']' => some .rbrack
  | ',' => some .comma
  | ';' => some .semicolon
  | _ => none

/-- The token after an equals sign has been seen. -/
def equalsSign : List Char → Piece
  | '>' :: rest => double .farrow '=' '>' rest
  | '=' :: rest => double .other '=' '=' rest
  | '~' :: rest => double .other '=' '~' rest
  | cs => single .equals '=' cs

/-- Cuts the first token off a text that is not empty. -/
def piece (c : Char) (cs : List Char) : Piece :=
  match punctuation? c with
  | some kind => single kind c cs
  | none =>
    -- Layout.
    if isBlank c then run .whitespace isBlank c cs
    else if c = '#' then run .comment (· != '\n') c cs
    -- Literals between quotes; a slash quotes a regular expression.
    else if c = '\'' then literal .quoted '\'' cs
    else if c = '"' then literal .string '"' cs
    else if c = '/' then literal .regex '/' cs
    -- Variables, operators and names.
    else if c = '$' then run .variable isNameChar c cs
    else if c = '=' then equalsSign cs
    else if c = ':' then
      -- Two colons begin an absolute name.
      if cs.head? = some ':' then word c cs else single .colon c cs
    else if c.isDigit then run .number (fun d => d.isAlphanum || d == '.') c cs
    else if Text.isAlphabetic c || c == '_' then word c cs
    else single .other c cs

theorem untilQuote_append (quote : Char) (cs : List Char) :
    (untilQuote quote cs).1 ++ (untilQuote quote cs).2 = cs := by
  fun_induction untilQuote quote cs <;> simp_all

theorem untilQuote_head (quote : Char) (cs : List Char) (c : Char) (rest : List Char)
    (after : (untilQuote quote cs).2 = c :: rest) : c = quote := by
  fun_induction untilQuote quote cs <;> simp_all

/-- A piece cuts a text if its slice is not empty and stands before its rest in the text. -/
def Piece.Cuts (cut : Piece) (text : List Char) : Prop :=
  cut.slice ≠ [] ∧ cut.slice ++ cut.rest = text

theorem single_cuts (kind : TokenKind) (c : Char) (cs : List Char) :
    (single kind c cs).Cuts (c :: cs) := by
  simp [single, Piece.Cuts]

theorem run_cuts (kind : TokenKind) (p : Char → Bool) (c : Char) (cs : List Char) :
    (run kind p c cs).Cuts (c :: cs) := by
  simp [run, Piece.Cuts]

theorem word_cuts (c : Char) (cs : List Char) : (word c cs).Cuts (c :: cs) := run_cuts _ _ _ _

theorem literal_cuts (kind : TokenKind) (quote : Char) (cs : List Char) :
    (literal kind quote cs).Cuts (quote :: cs) := by
  have whole := untilQuote_append quote cs
  unfold literal
  split <;> simp_all [Piece.Cuts]

theorem equalsSign_cuts (cs : List Char) : (equalsSign cs).Cuts ('=' :: cs) := by
  unfold equalsSign
  split <;> simp [single, double, Piece.Cuts]

theorem ite_cuts {text : List Char} {condition : Prop} [Decidable condition] {yes no : Piece}
    (whenTrue : condition → yes.Cuts text) (otherwise : no.Cuts text) :
    (if condition then yes else no).Cuts text := by
  by_cases holds : condition
  · rw [if_pos holds]; exact whenTrue holds
  · rw [if_neg holds]; exact otherwise

/-- Every step of the lexer cuts the text it is given. -/
theorem piece_cuts (c : Char) (cs : List Char) : (piece c cs).Cuts (c :: cs) := by
  unfold piece
  cases punctuation? c with
  | some kind => exact single_cuts kind c cs
  | none =>
    refine ite_cuts (fun _ => run_cuts _ _ c cs) (ite_cuts (fun _ => run_cuts _ _ c cs) ?_)
    refine ite_cuts (fun quote => quote ▸ literal_cuts _ _ cs) ?_
    refine ite_cuts (fun quote => quote ▸ literal_cuts _ _ cs) ?_
    refine ite_cuts (fun slash => slash ▸ literal_cuts _ _ cs) ?_
    refine ite_cuts (fun _ => run_cuts _ _ c cs) ?_
    refine ite_cuts (fun sign => sign ▸ equalsSign_cuts cs) ?_
    refine ite_cuts (fun _ => ite_cuts (fun _ => word_cuts c cs) (single_cuts _ c cs)) ?_
    refine ite_cuts (fun _ => run_cuts _ _ c cs) ?_
    exact ite_cuts (fun _ => word_cuts c cs) (single_cuts _ c cs)

theorem piece_rest_length_lt (c : Char) (cs : List Char) :
    (piece c cs).rest.length < (c :: cs).length := by
  obtain ⟨taken, whole⟩ := piece_cuts c cs
  have taken := List.length_pos_iff.mpr taken
  have whole := congrArg List.length whole
  simp only [List.length_append] at whole
  omega

/-- The position after a slice of text that starts at a position. A line ends after its newline. -/
def advance (line column : Nat) : List Char → Nat × Nat
  | [] => (line, column)
  | c :: cs => if c = '\n' then advance (line + 1) 1 cs else advance line (column + 1) cs

/-- The tokens of a text that starts at a position. -/
def tokensFrom (line column : Nat) (text : List Char) : List Token :=
  match text with
  | [] => []
  | c :: cs =>
    let cut := piece c cs
    let after := advance line column cut.slice
    Token.new cut.kind (String.ofList cut.text) line column ::
      tokensFrom after.1 after.2 cut.rest
termination_by text.length
decreasing_by exact piece_rest_length_lt c cs

/-- The stream of a manifest. -/
def tokenize (source : String) : TokenStream := .ofList (tokensFrom 1 1 source.toList)

end ManifestLint.Lexer
