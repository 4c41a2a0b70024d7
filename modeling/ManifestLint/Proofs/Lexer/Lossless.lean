import ManifestLint.Proofs.Lexer.Scan
import ManifestLint.Proofs.NodePattern.Atom

/-!
# Nothing is lost in tokens

The tokens of a manifest are spelled by the slices of its text, one behind the other and none empty.
A token has the text of its slice; a literal stands between quotes there, and the text within has no
quote that is not escaped. Lines and columns are counted as the slices are cut, and they are those of
the place where each slice begins.
-/
namespace ManifestLint.Lexer

/-- The line behind a text. -/
def lineAfter (before : List Char) : Nat := 1 + before.count '\n'

/-- The column behind a text: one more than the characters since its last line break. -/
def columnAfter (before : List Char) : Nat :=
  1 + (before.reverse.takeWhile (· != '\n')).length

/-- Before every given quote in a text stands an odd number of backslashes. -/
def Escaped (quote : Char) (text : List Char) : Prop :=
  ∀ before after, text = before ++ quote :: after →
    (before.reverse.takeWhile (· == '\\')).length % 2 = 1

/-- How a slice spells the text of a token of a kind. Behind the text of a literal the closing quote
may be missing, but only at the end. -/
def Spells (kind : TokenKind) (text slice : List Char) (last : Prop) : Prop :=
  match quote? kind with
  | none => slice = text
  | some quote => Escaped quote text ∧
      (slice = quote :: (text ++ [quote]) ∨ last ∧ slice = quote :: text)

/-- What holds of a token and the slice it is cut from, behind what stands before. -/
structure Placed (before slice : List Char) (last : Prop) (token : Token) : Prop where
  taken : slice ≠ []
  spelled : Spells token.kind token.text.toList slice last
  line : token.line = lineAfter before
  column : token.column = columnAfter before

/-! ### Lines and columns -/

theorem advance_after (before slice : List Char) :
    advance (lineAfter before) (columnAfter before) slice =
      (lineAfter (before ++ slice), columnAfter (before ++ slice)) := by
  induction slice generalizing before with
  | nil => rw [advance, List.append_nil]
  | cons c slice ih =>
    have step : before ++ c :: slice = before ++ [c] ++ slice := by simp
    rw [step, ← ih (before ++ [c]), advance]
    by_cases newline : c = '\n'
    · simp [newline, lineAfter, columnAfter, Nat.add_assoc]
    · simp [newline, lineAfter, columnAfter, Nat.add_comm]

/-! ### Literals -/

theorem escaped_untilQuote {quote : Char} (plain : quote ≠ '\\') (cs : List Char) :
    Escaped quote (untilQuote quote cs).1 := by
  -- A quote within is read as part of an escape, and escapes are told by runs of backslashes.
  have pending (before after : List Char)
      (split : (untilQuote quote cs).1 = before ++ quote :: after) :
      NodePattern.isPending before = true := by
    fun_induction untilQuote quote cs generalizing before with
    | case1 => simp at split
    | case2 =>
      obtain ⟨rfl, -⟩ | ⟨_, rfl, none⟩ := List.cons_eq_append_iff.mp split
      · cases split
        exact absurd rfl plain
      · simp at none
    | case3 c rest inside _ read ih =>
      rw [read] at ih
      rcases before with _ | ⟨first, _ | ⟨second, before⟩⟩
      · exact absurd (List.cons.inj split).1.symm plain
      · rw [← (List.cons.inj split).1]
        rfl
      · -- Both characters of the escape stand before the quote.
        obtain ⟨escape, tail⟩ := List.cons.inj split
        rw [← escape, NodePattern.isPending_escape_cons]
        exact ih before (List.cons.inj tail).2
    | case4 => simp at split
    | case5 c rest alone escape other inside _ read ih =>
      rw [read] at ih
      have noEscape := ne_backslash_of_no_escape alone escape
      rcases before with _ | ⟨first, before⟩
      · exact absurd (List.cons.inj split).1 other
      · obtain ⟨rfl, inner⟩ := List.cons.inj split
        rw [NodePattern.isPending_cons noEscape]
        exact ih before inner
  intro before after split
  have odd := pending before after split
  rwa [NodePattern.isPending_eq, beq_iff_eq] at odd

theorem spells_literal {kind : TokenKind} {quote : Char} (quotes : quote? kind = some quote)
    (cs : List Char) :
    Spells (literal kind quote cs).kind (literal kind quote cs).text (literal kind quote cs).slice
      ((literal kind quote cs).rest = []) := by
  have escaped := escaped_untilQuote (ne_backslash_of_quote? quotes) cs
  rw [literal]
  split
  next inside read =>
    rw [read] at escaped
    rw [Spells, quotes]
    exact ⟨escaped, .inr ⟨rfl, rfl⟩⟩
  next inside close rest read =>
    have closes := untilQuote_head quote cs close rest (by rw [read])
    rw [read] at escaped
    rw [Spells, quotes]
    exact ⟨escaped, .inl (by rw [closes])⟩

theorem Spells.imp {kind : TokenKind} {text slice : List Char} {last last' : Prop}
    (weaker : last → last') (spells : Spells kind text slice last) :
    Spells kind text slice last' := by
  rw [Spells] at spells ⊢
  cases quotes : quote? kind with
  | none => rwa [quotes] at spells
  | some quote =>
    rw [quotes] at spells
    exact spells.imp_right fun ends => ends.imp_right fun open' => open'.imp_left weaker

theorem spells_piece (c : Char) (cs : List Char) :
    Spells (piece c cs).kind (piece c cs).text (piece c cs).slice ((piece c cs).rest = []) := by
  have plain {kind : TokenKind} (quotes : quote? kind = none) (text : List Char) {last : Prop} :
      Spells kind text text last := by
    rw [Spells, quotes]
  have fits := shape_fits c cs
  rw [piece_eq]
  cases read : shape c cs.head? with
  | single kind => exact plain (by rwa [read] at fits) _
  | double kind => exact plain (by rw [read] at fits; exact fits.1) _
  | run kind p => exact plain (by rw [read] at fits; exact fits.1) _
  | marked kind p => exact plain (by rwa [read] at fits) _
  | word => exact plain (quote?_wordKind _) _
  | literal kind =>
    rw [read] at fits
    rw [Shape.piece]
    exact spells_literal fits cs

/-! ### All slices -/

theorem exists_slices (before text : List Char) :
    ∃ slices : List (List Char), slices.flatten = text ∧
      slices.length = (tokensFrom (lineAfter before) (columnAfter before) text).length ∧
      ∀ k slice token, slices[k]? = some slice →
        (tokensFrom (lineAfter before) (columnAfter before) text)[k]? = some token →
          Placed (before ++ (slices.take k).flatten) slice (k + 1 = slices.length) token := by
  induction length : text.length using Nat.strongRecOn generalizing before text with
  | ind count ih =>
    cases text with
    | nil =>
      rw [tokensFrom]
      exact ⟨[], rfl, rfl, by simp⟩
    | cons c cs =>
      obtain ⟨taken, whole⟩ := piece_cuts c cs
      have shorter := piece_rest_length_lt c cs
      obtain ⟨slices, flat, count, each⟩ := ih _ (by omega) (before ++ (piece c cs).slice)
        (piece c cs).rest rfl
      have spelled := spells_piece c cs
      rw [tokensFrom, advance_after]
      refine ⟨(piece c cs).slice :: slices, ?_, ?_, ?_⟩
      · rw [List.flatten_cons, flat, whole]
      · rw [List.length_cons, List.length_cons, count]
      · rintro (_ | k) slice token first first'
        · cases first
          cases first'
          refine ⟨taken, ?_, by simp [Token.new], by simp [Token.new]⟩
          rw [Token.new, String.toList_ofList]
          -- If nothing is left behind the first slice, there is no other token.
          refine spelled.imp fun ended => ?_
          rw [List.length_cons, count, ended, tokensFrom, List.length_nil]
        · rw [List.getElem?_cons_succ] at first first'
          have placed := each k slice token first first'
          rwa [List.append_assoc, ← List.flatten_cons, ← List.take_succ_cons,
            ← Nat.succ_inj] at placed

/-- Cutting a manifest into tokens loses nothing. A reader that moves by offsets comes to the same
tokens, and none of its slices is out of range. The text is made up of one slice for each token, in
order and none empty. Each token has the line and the column where its slice begins and the text that
its slice spells, between quotes if it is a literal. Only the last token may lack the closing one. -/
theorem tokenize_lossless (source : String) :
    Scans source.toList 0 1 1 (tokenize source).tokens.toList ∧
      ∃ slices : List (List Char), slices.flatten = source.toList ∧
        slices.length = (tokenize source).tokens.size ∧
        ∀ k slice token, slices[k]? = some slice → (tokenize source).tokens[k]? = some token →
          Placed (slices.take k).flatten slice (k + 1 = slices.length) token := by
  have listed : (tokenize source).tokens.toList = tokensFrom 1 1 source.toList := rfl
  simp only [← Array.length_toList, ← Array.getElem?_toList, listed]
  exact ⟨scans_tokensFrom [] source.toList 1 1, exists_slices [] source.toList⟩

end ManifestLint.Lexer
