import ManifestLint.Token.Basic

/-!
# Token streams

A stream is an array of tokens together with, for every position, the nearest code token before it
and after it, layout skipped. The links depend on the kinds alone. An edit changes the text of a
token and nothing else, so the links stay what they are.
-/
namespace ManifestLint

namespace Links

/-- The links to the next code token of a list of kinds that starts at a position, and the first
code token of the list. -/
def nextFrom (position : Nat) : List TokenKind → List (Option Nat) × Option Nat
  | [] => ([], none)
  | kind :: kinds =>
    let (links, following) := nextFrom (position + 1) kinds
    -- A token is not its own neighbour, so its link is that of the tokens behind it.
    (following :: links, if kind.isFormatting then following else some position)

/-- The links to the previous code token of a list of kinds that starts at a position, given the
last code token before it. -/
def prevFrom (last : Option Nat) (position : Nat) : List TokenKind → List (Option Nat)
  | [] => []
  | kind :: kinds =>
    last :: prevFrom (if kind.isFormatting then last else some position) (position + 1) kinds

/-- For every position, the nearest code token after it. -/
def next (kinds : List TokenKind) : Array (Option Nat) := (nextFrom 0 kinds).1.toArray

/-- For every position, the nearest code token before it. -/
def prev (kinds : List TokenKind) : Array (Option Nat) := (prevFrom none 0 kinds).toArray

end Links

/-- Tokens with their links. The links are those of the kinds of the tokens. -/
structure TokenStream where
  tokens : Array Token
  next : Array (Option Nat)
  prev : Array (Option Nat)
  next_eq : next = Links.next (tokens.toList.map Token.kind)
  prev_eq : prev = Links.prev (tokens.toList.map Token.kind)

namespace TokenStream

/-- The kinds of all tokens. -/
def kinds (s : TokenStream) : List TokenKind := s.tokens.toList.map Token.kind

/-- The stream of an array of tokens. -/
def ofTokens (tokens : Array Token) : TokenStream where
  tokens := tokens
  next := Links.next (tokens.toList.map Token.kind)
  prev := Links.prev (tokens.toList.map Token.kind)
  next_eq := rfl
  prev_eq := rfl

/-- The stream of a list of tokens. -/
def ofList (tokens : List Token) : TokenStream := ofTokens tokens.toArray

instance : Inhabited TokenStream := ⟨ofList []⟩

/-- A stream is determined by its tokens. -/
theorem ext {s t : TokenStream} (same : s.tokens = t.tokens) : s = t := by
  cases s; cases t; cases same; simp_all

/-- The number of tokens, layout included. -/
def size (s : TokenStream) : Nat := s.tokens.size

/-- The token at a position. -/
def token? (s : TokenStream) (i : Nat) : Option Token := s.tokens[i]?

/-- The kind of the token at a position. -/
def kind? (s : TokenStream) (i : Nat) : Option TokenKind := (s.token? i).map Token.kind

/-- The text of the token at a position; empty past the end. -/
def text (s : TokenStream) (i : Nat) : String := ((s.token? i).map Token.text).getD ""

/-- Whether the token at a position has a given kind. -/
def isKind (s : TokenStream) (i : Nat) (kind : TokenKind) : Bool := s.kind? i == some kind

/-- The nearest code token after a position. -/
def next? (s : TokenStream) (i : Nat) : Option Nat := s.next[i]?.join

/-- The nearest code token before a position. -/
def prev? (s : TokenStream) (i : Nat) : Option Nat := s.prev[i]?.join

/-- Whether the next code token has a given kind. -/
def nextIs (s : TokenStream) (i : Nat) (kind : TokenKind) : Bool :=
  (s.next? i).any (s.isKind · kind)

/-- Whether the previous code token has a given kind. -/
def prevIs (s : TokenStream) (i : Nat) (kind : TokenKind) : Bool :=
  (s.prev? i).any (s.isKind · kind)

theorem kinds_set_text (tokens : Array Token) (i : Nat) (h : i < tokens.size) (newText : String) :
    (tokens.set i { tokens[i] with text := newText }).toList.map Token.kind =
      tokens.toList.map Token.kind := by
  rw [Array.toList_set, List.map_set]
  apply List.ext_getElem
  · simp
  · intro j _ _
    by_cases same : i = j
    · subst same; simp
    · simp [List.getElem_set_ne same]

/-- Replaces the text of the token an edit names; none if there is no such token. -/
def edit? (s : TokenStream) (edit : Edit) : Option TokenStream :=
  if h : edit.token < s.tokens.size then
    some {
      tokens := s.tokens.set edit.token { s.tokens[edit.token] with text := edit.newText }
      -- Kinds stay what they are, and so do the links.
      next := s.next
      prev := s.prev
      next_eq := by rw [kinds_set_text, s.next_eq]
      prev_eq := by rw [kinds_set_text, s.prev_eq] }
  else none

/-- Gives the token at a position another kind, its tag unchanged, and links anew. -/
def setKind (s : TokenStream) (i : Nat) (kind : TokenKind) : TokenStream :=
  ofTokens (s.tokens.modify i fun token => { token with kind })

@[simp] theorem tokens_ofTokens (tokens : Array Token) : (ofTokens tokens).tokens = tokens := rfl

@[simp] theorem ofTokens_tokens (s : TokenStream) : ofTokens s.tokens = s := ext rfl

@[simp] theorem edit?_isSome_iff (s : TokenStream) (edit : Edit) :
    (s.edit? edit).isSome ↔ edit.token < s.size := by
  unfold edit? size
  split <;> simp_all

end TokenStream

end ManifestLint
