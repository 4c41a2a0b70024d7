import Mathlib.Data.List.Basic
import ManifestLint.Token.Lexer

/-!
# Cutting text by offsets

The lexer takes slices off the front of a text. A reader that keeps the text and moves through it by
offsets has more to get right: where a run or a literal ends, how far a token reaches, and that no
slice begins behind its end or ends behind the text. Such a reader is given here with slices that
fail when they are out of range, and it reads every text to the end and comes to the tokens of the
lexer (`scans_tokensFrom`).
-/
namespace ManifestLint.Lexer

/-- The characters from one offset up to, but not including, another; none if they are not in order
or reach past the end. -/
def slice? (chars : List Char) (start stop : Nat) : Option (List Char) :=
  if start ≤ stop ∧ stop ≤ chars.length then some ((chars.drop start).take (stop - start)) else none

/-- The offset of the first character that fails a test, from a given one on. -/
def runEnd (p : Char → Bool) (chars : List Char) (offset : Nat) : Nat :=
  if inside : offset < chars.length then
    if p chars[offset] then runEnd p chars (offset + 1) else offset
  else offset
termination_by chars.length - offset

/-- The offset of the closing quote of a literal, from a given one on. A backslash at the end of the
text takes it one past the end. -/
def quoteEnd (quote : Char) (chars : List Char) (offset : Nat) : Nat :=
  if inside : offset < chars.length then
    if chars[offset] = quote then offset
    else if chars[offset] = '\\' then quoteEnd quote chars (offset + 2)
    else quoteEnd quote chars (offset + 1)
  else offset
termination_by chars.length - offset

/-- How the token that begins with a character is read. -/
inductive Shape where
  /-- The character alone. -/
  | single (kind : TokenKind)
  /-- The character and the next one. -/
  | double (kind : TokenKind)
  /-- The longest run of characters of a class that begins here. -/
  | run (kind : TokenKind) (p : Char → Bool)
  /-- The character and the longest run of characters of a class behind it. -/
  | marked (kind : TokenKind) (p : Char → Bool)
  /-- The longest run of the characters of names that begins here. -/
  | word
  /-- What stands up to the next such character that nothing escapes. -/
  | literal (kind : TokenKind)

/-- How a token is read, by its first character and the one behind that. -/
def shape (c : Char) (next : Option Char) : Shape :=
  match punctuation? c with
  | some kind => .single kind
  | none =>
    if isBlank c then .run .whitespace isBlank
    else if c = '#' then .run .comment (· != '\n')
    else if c = '\'' then .literal .quoted
    else if c = '"' then .literal .string
    else if c = '/' then .literal .regex
    else if c = '$' then .marked .variable isNameChar
    else if c = '=' then
      if next = some '>' then .double .farrow
      else if next = some '=' ∨ next = some '~' then .double .other
      else .single .equals
    else if c = ':' then if next = some ':' then .word else .single .colon
    else if c.isDigit then .run .number (fun d => d.isAlphanum || d == '.')
    else if Text.isAlphabetic c || c == '_' then .word
    else .single .other

/-- What is cut off at an offset: the kind and the value of a token, and how many characters it
takes. -/
structure Extent where
  kind : TokenKind
  text : List Char
  length : Nat
  deriving DecidableEq, Repr

/-- The token that is spelled from one offset up to another. -/
def extentTo? (chars : List Char) (start stop : Nat) (kind : List Char → TokenKind) :
    Option Extent :=
  (slice? chars start stop).map fun text => ⟨kind text, text, stop - start⟩

namespace Shape

/-- Reads a token at the front of a text. -/
def piece (c : Char) (cs : List Char) : Shape → Piece
  | .single kind => Lexer.single kind c cs
  | .double kind => ⟨kind, c :: cs.take 1, c :: cs.take 1, cs.drop 1⟩
  | .run kind p | .marked kind p => Lexer.run kind p c cs
  | .word => Lexer.word c cs
  | .literal kind => Lexer.literal kind c cs

/-- Reads a token at an offset; none if a slice is out of range. -/
def extent? (chars : List Char) (offset : Nat) (c : Char) : Shape → Option Extent
  | .single kind => some ⟨kind, [c], 1⟩
  | .double kind => extentTo? chars offset (offset + 2) fun _ => kind
  | .run kind p => extentTo? chars offset (runEnd p chars offset) fun _ => kind
  | .marked kind p => extentTo? chars offset (runEnd p chars (offset + 1)) fun _ => kind
  | .word => extentTo? chars offset (runEnd isNameChar chars offset) wordKind
  | .literal kind =>
    -- The search may end past the text, and then there is no closing quote to step over.
    let close := min (quoteEnd c chars (offset + 1)) chars.length
    (slice? chars (offset + 1) close).map fun text =>
      ⟨kind, text, min (close + 1) chars.length - offset⟩

end Shape

/-- The tokens that are read from an offset on, at a line and a column. There are none if the reading
never ends or a slice is out of range. -/
inductive Scans (chars : List Char) : Nat → Nat → Nat → List Token → Prop
  | done {offset line column : Nat} (past : chars[offset]? = none) :
      Scans chars offset line column []
  | token {offset line column : Nat} {c : Char} {extent : Extent} {slice : List Char}
      {tokens : List Token} (here : chars[offset]? = some c)
      (reads : (shape c chars[offset + 1]?).extent? chars offset c = some extent)
      (taken : slice? chars offset (offset + extent.length) = some slice)
      (rest : Scans chars (offset + extent.length) (advance line column slice).1
        (advance line column slice).2 tokens) :
      Scans chars offset line column
        (Token.new extent.kind (String.ofList extent.text) line column :: tokens)

/-! ### Shapes -/

/-- The lexer reads each token by its shape. -/
theorem piece_eq (c : Char) (cs : List Char) : piece c cs = (shape c cs.head?).piece c cs := by
  have sign : equalsSign cs =
      (if cs.head? = some '>' then Shape.double .farrow
        else if cs.head? = some '=' ∨ cs.head? = some '~' then .double .other
        else .single .equals).piece '=' cs := by
    cases cs with
    | nil => rfl
    | cons d rest =>
      unfold equalsSign
      split <;> simp_all [Shape.piece, double]
  rw [piece, shape]
  cases punctuation? c with
  | some kind => rfl
  | none =>
    simp only [apply_ite (Shape.piece c cs)]
    refine ite_congr rfl (fun _ => rfl) fun _ => ite_congr rfl (fun _ => rfl) fun _ => ?_
    refine ite_congr rfl (fun quote => quote ▸ rfl) fun _ => ?_
    refine ite_congr rfl (fun quote => quote ▸ rfl) fun _ => ?_
    refine ite_congr rfl (fun slash => slash ▸ rfl) fun _ => ?_
    refine ite_congr rfl (fun _ => rfl) fun _ => ite_congr rfl (fun equals => ?_) fun _ => ?_
    · rw [sign, ← equals]
      simp only [apply_ite (Shape.piece c cs)]
    refine ite_congr rfl (fun _ => ?_) fun _ => ite_congr rfl (fun _ => rfl) fun _ => ?_
    · exact ite_congr rfl (fun _ => rfl) fun _ => rfl
    · exact ite_congr rfl (fun _ => rfl) fun _ => rfl

/-- The quotes around literals of a kind. -/
def quote? : TokenKind → Option Char
  | .quoted => some '\''
  | .string => some '"'
  | .regex => some '/'
  | _ => none

theorem ne_backslash_of_quote? {kind : TokenKind} {quote : Char}
    (quotes : quote? kind = some quote) : quote ≠ '\\' := by
  rintro rfl
  cases kind <;> cases quotes

theorem quote?_of_punctuation? {c : Char} {kind : TokenKind}
    (mark : punctuation? c = some kind) : quote? kind = none := by
  unfold punctuation? at mark
  split at mark <;> cases mark <;> rfl

theorem quote?_wordKind (word : List Char) : quote? (wordKind word) = none := by
  rw [wordKind]
  split
  next kind keyword =>
    obtain ⟨earlier, later, listed, -⟩ := List.lookup_eq_some_iff.mp keyword
    -- No entry of the table of keywords is a literal.
    have unquoted : ∀ entry ∈ earlier ++ (String.ofList word, kind) :: later,
        quote? entry.2 = none := by
      rw [← listed]
      decide
    exact unquoted (String.ofList word, kind) (by simp)
  · split <;> rfl

/-- What holds where a token has a shape: a second character is there, a run begins with a character
of its class, a literal begins with the quote of its kind, and nothing else is quoted. -/
def Shape.Fits (c : Char) (cs : List Char) : Shape → Prop
  | .single kind => quote? kind = none
  | .double kind => quote? kind = none ∧ cs ≠ []
  | .run kind p => quote? kind = none ∧ p c = true
  | .marked kind _ => quote? kind = none
  | .word => isNameChar c = true
  | .literal kind => quote? kind = some c

theorem ite_fits {c : Char} {cs : List Char} {condition : Prop} [Decidable condition]
    {yes no : Shape} (whenTrue : condition → yes.Fits c cs) (otherwise : no.Fits c cs) :
    (if condition then yes else no).Fits c cs := by
  split
  next holds => exact whenTrue holds
  · exact otherwise

theorem shape_fits (c : Char) (cs : List Char) : (shape c cs.head?).Fits c cs := by
  have second {d : Char} (next : cs.head? = some d) : cs ≠ [] := by
    rintro rfl
    cases next
  rw [shape]
  cases mark : punctuation? c with
  | some kind => exact quote?_of_punctuation? mark
  | none =>
    refine ite_fits (fun blank => ⟨rfl, blank⟩) (ite_fits (fun hash => ⟨rfl, ?_⟩) ?_)
    · rw [hash]
      rfl
    refine ite_fits (fun quote => congrArg some quote.symm) ?_
    refine ite_fits (fun quote => congrArg some quote.symm) ?_
    refine ite_fits (fun slash => congrArg some slash.symm) (ite_fits (fun _ => rfl) ?_)
    refine ite_fits (fun _ => ite_fits (fun next => ⟨rfl, second next⟩) ?_) ?_
    · exact ite_fits (fun next => ⟨rfl, next.elim second second⟩) rfl
    refine ite_fits (fun colon => ite_fits (fun _ => ?_) rfl) ?_
    · simp [Shape.Fits, isNameChar, colon]
    refine ite_fits (fun digit => ⟨rfl, ?_⟩) (ite_fits (fun letter => ?_) rfl)
    · simp [Char.isAlphanum, digit]
    · rw [Bool.or_eq_true] at letter
      rcases letter with letter | underscore
      · simp [Shape.Fits, isNameChar, letter]
      · simp [Shape.Fits, isNameChar, underscore]

/-! ### Offsets -/

theorem slice?_append (before slice rest : List Char) :
    slice? (before ++ (slice ++ rest)) before.length (before.length + slice.length) =
      some slice := by
  have inside : before.length ≤ before.length + slice.length ∧
      before.length + slice.length ≤ (before ++ (slice ++ rest)).length := by
    simp only [List.length_append]
    omega
  rw [slice?, if_pos inside, List.drop_left, Nat.add_sub_cancel_left, List.take_left]

theorem extentTo?_append (before slice rest : List Char) (kind : List Char → TokenKind) :
    extentTo? (before ++ (slice ++ rest)) before.length (before.length + slice.length) kind =
      some ⟨kind slice, slice, slice.length⟩ := by
  rw [extentTo?, slice?_append, Option.map_some, Nat.add_sub_cancel_left]

theorem runEnd_append (p : Char → Bool) (before cs : List Char) :
    runEnd p (before ++ cs) before.length = before.length + (cs.takeWhile p).length := by
  induction cs generalizing before with
  | nil =>
    rw [runEnd]
    simp
  | cons c cs ih =>
    have inside : before.length < (before ++ c :: cs).length := by simp
    have here : (before ++ c :: cs)[before.length] = c := by simp
    have shifted := ih (before ++ [c])
    rw [List.append_assoc, List.singleton_append, List.length_append, List.length_singleton]
      at shifted
    rw [runEnd, dif_pos inside, here]
    cases holds : p c with
    | true =>
      rw [if_pos rfl, shifted, List.takeWhile_cons_of_pos holds, List.length_cons]
      omega
    | false => simp [holds]

theorem quoteEnd_append_cons (quote : Char) (before : List Char) (c : Char) (cs : List Char) :
    quoteEnd quote (before ++ c :: cs) before.length =
      if c = quote then before.length
      else if c = '\\' then quoteEnd quote (before ++ c :: cs) (before.length + 2)
      else quoteEnd quote (before ++ c :: cs) (before.length + 1) := by
  have inside : before.length < (before ++ c :: cs).length := by simp
  have here : (before ++ c :: cs)[before.length] = c := by simp
  rw [quoteEnd, dif_pos inside, here]

/-- A character of a literal that begins neither kind of escape is no backslash. -/
theorem ne_backslash_of_no_escape {c : Char} {rest : List Char}
    (alone : c = '\\' → rest = [] → False)
    (escape : ∀ d rest', c = '\\' → rest = d :: rest' → False) : c ≠ '\\' := by
  rintro rfl
  cases rest with
  | nil => exact alone rfl rfl
  | cons d rest => exact escape d rest rfl rfl

/-- Wherever the search for the closing quote ends, the text of the literal ends there or with the
text. -/
theorem min_quoteEnd_append {quote : Char} (plain : quote ≠ '\\') (before cs : List Char) :
    min (quoteEnd quote (before ++ cs) before.length) (before ++ cs).length =
      before.length + (untilQuote quote cs).1.length := by
  fun_induction untilQuote quote cs generalizing before with
  | case1 =>
    rw [quoteEnd]
    simp
  | case2 =>
    -- The backslash has nothing to escape, and the search goes on behind the text.
    rw [quoteEnd_append_cons, if_neg (Ne.symm plain), if_pos rfl, quoteEnd]
    simp
  | case3 c rest inside after read ih =>
    have shifted := ih (before ++ ['\\', c])
    simp only [read, List.append_assoc, List.cons_append, List.nil_append, List.length_append,
      List.length_cons, List.length_nil, Nat.zero_add, Nat.reduceAdd] at shifted
    rw [quoteEnd_append_cons, if_neg (Ne.symm plain), if_pos rfl]
    simp only [List.length_append, List.length_cons]
    omega
  | case4 =>
    rw [quoteEnd_append_cons, if_pos rfl]
    simp
  | case5 c rest alone escape other inside after read ih =>
    have noEscape := ne_backslash_of_no_escape alone escape
    have shifted := ih (before ++ [c])
    simp only [read, List.append_assoc, List.cons_append, List.nil_append, List.length_append,
      List.length_cons, List.length_nil, Nat.zero_add] at shifted
    rw [quoteEnd_append_cons, if_neg other, if_neg noEscape]
    simp only [List.length_append, List.length_cons]
    omega

/-- At an offset a token is read as at the front of the text that is left. -/
theorem extent?_append {shape : Shape} {c : Char} {cs : List Char} (fits : shape.Fits c cs)
    (before : List Char) :
    shape.extent? (before ++ c :: cs) before.length c =
      some ⟨(shape.piece c cs).kind, (shape.piece c cs).text, (shape.piece c cs).slice.length⟩ := by
  -- The text is cut behind the first run that a shape looks for.
  have run {p : Char → Bool} {stop : Nat} (kind : List Char → TokenKind)
      (ends : stop = before.length + (c :: cs.takeWhile p).length) :
      extentTo? (before ++ c :: cs) before.length stop kind =
        some ⟨kind (c :: cs.takeWhile p), c :: cs.takeWhile p, (c :: cs.takeWhile p).length⟩ := by
    have cut := extentTo?_append before (c :: cs.takeWhile p) (cs.dropWhile p) kind
    rwa [List.cons_append, List.takeWhile_append_dropWhile, ← ends] at cut
  have first {p : Char → Bool} (holds : p c = true) :
      runEnd p (before ++ c :: cs) before.length =
        before.length + (c :: cs.takeWhile p).length := by
    rw [runEnd_append, List.takeWhile_cons_of_pos holds]
  have shift : before ++ c :: cs = (before ++ [c]) ++ cs := by simp
  have start : before.length + 1 = (before ++ [c]).length := by simp
  cases shape with
  | single kind => rfl
  | double kind =>
    cases cs with
    | nil => exact absurd rfl fits.2
    | cons d rest => exact extentTo?_append before [c, d] rest fun _ => kind
  | run kind p => exact run (fun _ => kind) (first fits.2)
  | word => exact run wordKind (first fits)
  | marked kind p =>
    refine run (fun _ => kind) ?_
    rw [shift, start, runEnd_append, ← start, List.length_cons]
    omega
  | literal kind =>
    have stop := min_quoteEnd_append (ne_backslash_of_quote? fits) (before ++ [c]) cs
    have cut := slice?_append (before ++ [c]) (untilQuote c cs).1 (untilQuote c cs).2
    have whole := untilQuote_append c cs
    rw [whole] at cut
    rw [Shape.extent?, shift, start]
    simp only [stop, cut, Option.map_some]
    have length := congrArg List.length whole
    simp only [List.length_append] at length
    rw [Shape.piece, Lexer.literal]
    split
    next inside read =>
      have reach : min (before.length + 1 + inside.length + 1) (before ++ [c] ++ cs).length -
          before.length = (c :: inside).length := by
        simp only [read, List.length_nil, List.length_append, List.length_cons] at length ⊢
        omega
      simp only [read, ← start, reach]
    next inside close rest read =>
      have reach : min (before.length + 1 + inside.length + 1) (before ++ [c] ++ cs).length -
          before.length = (c :: (inside ++ [close])).length := by
        simp only [read, List.length_nil, List.length_append, List.length_cons] at length ⊢
        omega
      simp only [read, ← start, reach]

/-- Moving through a text by offsets, no slice is ever out of range, and the tokens are those that are
cut off its front one after the other. -/
theorem scans_tokensFrom (before text : List Char) (line column : Nat) :
    Scans (before ++ text) before.length line column (tokensFrom line column text) := by
  induction length : text.length using Nat.strongRecOn generalizing before text line column with
  | ind count ih =>
    cases text with
    | nil =>
      rw [tokensFrom]
      exact .done (by simp)
    | cons c cs =>
      obtain ⟨taken, whole⟩ := piece_cuts c cs
      have shorter := piece_rest_length_lt c cs
      have next : (before ++ c :: cs)[before.length + 1]? = cs.head? := by
        rw [List.getElem?_append_right (by omega), Nat.add_sub_cancel_left,
          List.getElem?_cons_succ, List.head?_eq_getElem?]
      have reads := extent?_append (shape_fits c cs) before
      rw [← piece_eq, ← next] at reads
      have cut := slice?_append before (piece c cs).slice (piece c cs).rest
      rw [whole] at cut
      rw [tokensFrom]
      refine .token (by simp) reads cut ?_
      have rest := ih _ (by omega) (before ++ (piece c cs).slice) (piece c cs).rest
        (advance line column (piece c cs).slice).1 (advance line column (piece c cs).slice).2 rfl
      rwa [List.append_assoc, whole, List.length_append] at rest

end ManifestLint.Lexer
