import Mathlib.Data.List.TakeWhile
import ManifestLint.Json.Writer

/-!
# Texts and their lexemes

What the writer puts down is read as the lexemes it stands for, whatever text comes behind it. Only
numbers and words need care: they end where the next character does not belong to them, so what
comes behind one must not continue it.
-/
namespace ManifestLint

/-! ### Numerals -/

namespace Text

theorem natOfDigits_digitsOfNat (n : Nat) : natOfDigits (digitsOfNat n) = n :=
  Nat.ofDigitChars_toDigits (by decide) (by decide)

theorem isDigit_of_mem_digitsOfNat {n : Nat} {c : Char} (member : c ∈ digitsOfNat n) :
    c.isDigit = true :=
  Nat.isDigit_of_mem_toDigits (by decide) (by decide) member

theorem digitsOfNat_ne_nil (n : Nat) : digitsOfNat n ≠ [] := Nat.toDigits_ne_nil

theorem head?_digitsOfNat {n : Nat} (large : 10 ≤ n) : (digitsOfNat n).head? ≠ some '0' := by
  induction n using Nat.strongRecOn with
  | ind n ih =>
    have split : digitsOfNat n = digitsOfNat (n / 10) ++ [(n % 10).digitChar] :=
      Nat.toDigits_of_base_le (by decide) large
    obtain ⟨first, digits, shape⟩ := List.exists_cons_of_ne_nil (digitsOfNat_ne_nil (n / 10))
    rw [split, shape, List.cons_append, List.head?_cons]
    by_cases more : 10 ≤ n / 10
    · have leading := ih (n / 10) (by omega) more
      rwa [shape] at leading
    · -- The leading digit is the number that is left, which is not zero.
      have single : digitsOfNat (n / 10) = [(n / 10).digitChar] :=
        Nat.toDigits_of_lt_base (by omega)
      have bounds : 0 < n / 10 ∧ n / 10 < 10 := by omega
      have nonzero : ∀ d < 10, 0 < d → d.digitChar ≠ '0' := by decide
      rw [single] at shape
      obtain ⟨rfl, -⟩ := List.cons.inj shape
      simpa using nonzero (n / 10) bounds.2 bounds.1

/-- A numeral has no superfluous leading zero. -/
theorem digitsOfNat_plain (n : Nat) :
    ((digitsOfNat n).length != 1 && (digitsOfNat n).head? == some '0') = false := by
  by_cases large : 10 ≤ n
  · simp [head?_digitsOfNat large]
  · have single : digitsOfNat n = [n.digitChar] := Nat.toDigits_of_lt_base (by omega)
    simp [single]

end Text

namespace JsonNumber

/-- An integer of 64 bits, signed or unsigned. -/
def isWord : JsonNumber → Bool
  | .int (.ofNat n) => n < Text.wordCount
  | .int (.negSucc n) => n < Text.signedBound
  | .double _ => false

end JsonNumber

namespace NumberLiteral

theorem readUnsigned_digitsOfNat (negative : Bool) (n : Nat) :
    readUnsigned negative (Text.digitsOfNat n) =
      some ⟨negative, Text.digitsOfNat n, [], none⟩ := by
  have digits : ∀ c ∈ Text.digitsOfNat n, c.isDigit = true :=
    fun c member => Text.isDigit_of_mem_digitsOfNat member
  have whole : (Text.digitsOfNat n).takeWhile Char.isDigit = Text.digitsOfNat n :=
    List.takeWhile_eq_self_iff.mpr digits
  have rest : (Text.digitsOfNat n).dropWhile Char.isDigit = [] :=
    List.dropWhile_eq_nil_iff.mpr digits
  have some : (Text.digitsOfNat n).isEmpty = false := by simp [Text.digitsOfNat_ne_nil]
  rw [readUnsigned, whole, rest, some, Text.digitsOfNat_plain]
  rfl

theorem ofChars?_digitsOfNat (n : Nat) :
    ofChars? (Text.digitsOfNat n) = some ⟨false, Text.digitsOfNat n, [], none⟩ := by
  have unsigned : ∀ rest, Text.digitsOfNat n ≠ '-' :: rest := by
    intro rest equal
    have digit : '-'.isDigit = true :=
      Text.isDigit_of_mem_digitsOfNat (n := n) (by simp [equal])
    exact absurd digit (by decide)
  rw [ofChars?, readUnsigned_digitsOfNat]
  exact fun rest equal => unsigned rest equal

end NumberLiteral

namespace JsonLexeme

theorem number?_text {n : JsonNumber} (word : n.isWord = true) :
    number? n.text = some (.num (some n)) := by
  match n, word with
  | .int (.ofNat n), word =>
    have bound : n < Text.wordCount := by simpa [JsonNumber.isWord] using word
    simp [number?, JsonNumber.text, NumberLiteral.ofChars?_digitsOfNat, NumberLiteral.value?,
      Text.natOfDigits_digitsOfNat, bound]
  | .int (.negSucc n), word =>
    have bound : n < Text.signedBound := by simpa [JsonNumber.isWord] using word
    have fits : n + 1 ≤ Text.signedBound := bound
    simp [number?, JsonNumber.text, NumberLiteral.ofChars?, NumberLiteral.readUnsigned_digitsOfNat,
      NumberLiteral.value?, Text.natOfDigits_digitsOfNat, fits, Int.negSucc_eq]

/-- A numeral begins with a digit or a sign and goes on with characters of a numeral. -/
theorem exists_numeral {n : JsonNumber} (word : n.isWord = true) :
    ∃ c text, n.text = c :: text ∧ (c.isDigit = true ∨ c = '-') ∧
      ∀ d ∈ text, isNumberChar d = true := by
  have digits (m : Nat) : ∀ c ∈ Text.digitsOfNat m, isNumberChar c = true :=
    fun c member => by simp [isNumberChar, Text.isDigit_of_mem_digitsOfNat member]
  match n, word with
  | .int (.ofNat m), _ =>
    obtain ⟨c, text, shape⟩ := List.exists_cons_of_ne_nil (Text.digitsOfNat_ne_nil m)
    have all := digits m
    rw [shape] at all
    refine ⟨c, text, shape, Or.inl ?_, fun d member => all d (List.mem_cons_of_mem c member)⟩
    exact Text.isDigit_of_mem_digitsOfNat (n := m) (by simp [shape])
  | .int (.negSucc m), _ => exact ⟨'-', Text.digitsOfNat (m + 1), rfl, Or.inr rfl, digits (m + 1)⟩

/-! ### Strings as units -/

theorem not_surrogate (c : Char) :
    isHighSurrogate c.toNat = false ∧ isLowSurrogate c.toNat = false := by
  have valid : c.toNat < 0xD800 ∨ (0xDFFF < c.toNat ∧ c.toNat < 0x110000) := c.valid
  simp only [isHighSurrogate, isLowSurrogate, Bool.and_eq_false_iff, decide_eq_false_iff_not]
  omega

theorem charsOfUnits?_map_toNat (text : List Char) :
    charsOfUnits? (text.map Char.toNat) = some text := by
  induction text with
  | nil => rfl
  | cons c text ih =>
    obtain ⟨high, low⟩ := not_surrogate c
    cases text with
    | nil => simp [charsOfUnits?, high, low]
    | cons d text =>
      rw [List.map_cons, List.map_cons, charsOfUnits?, ← List.map_cons, ih, high, low]
      simp

/-! ### Texts that are read as lexemes -/

/-- A text that is read as the given lexemes, whatever was read before it. -/
def Spells (text : List Char) (lexemes : List JsonLexeme) : Prop :=
  ∀ before, (text.foldlM Scan.step ⟨before, .between⟩).bind Scan.finish =
    some (before.reverse ++ lexemes)

/-- A text that continues neither a number nor a word. -/
def Breaks (text : List Char) : Prop :=
  ∀ c ∈ text.head?, isNumberChar c = false ∧ c.isLower = false

theorem read_of_spells {text : List Char} {lexemes : List JsonLexeme}
    (spelled : Spells text lexemes) : read text = some lexemes :=
  spelled []

theorem breaks_cons {c : Char} (text : List Char) (number : isNumberChar c = false)
    (lower : c.isLower = false) : Breaks (c :: text) := by
  rintro _ ⟨⟩
  exact ⟨number, lower⟩

namespace Spells

variable {rest : List Char} {lexemes : List JsonLexeme}

theorem nil : Spells [] [] := by
  intro before
  simp [Scan.finish]

theorem punctuation {c : Char} {lexeme : JsonLexeme} (mark : punctuation? c = some lexeme)
    (spelled : Spells rest lexemes) : Spells (c :: rest) (lexeme :: lexemes) := by
  intro before
  have started : Scan.start before c = some ⟨lexeme :: before, .between⟩ := by
    unfold punctuation? at mark
    split at mark <;> cases mark <;> rfl
  simpa [Scan.step, started] using spelled (lexeme :: before)

theorem blank {c : Char} (white : isBlank c = true) (spelled : Spells rest lexemes) :
    Spells (c :: rest) lexemes := by
  intro before
  simpa [Scan.step, Scan.start, white] using spelled before

theorem blanks {text : List Char} (white : ∀ c ∈ text, isBlank c = true)
    (spelled : Spells rest lexemes) : Spells (text ++ rest) lexemes := by
  induction text with
  | nil => exact spelled
  | cons c text ih =>
    have later := ih fun d member => white d (List.mem_cons_of_mem c member)
    exact blank (white c List.mem_cons_self) later

/-! ### Words and numbers -/

theorem foldlM_collect {mode : List Char → Mode} {belongs : Char → Bool} {text : List Char}
    (collects : ∀ before seen d, belongs d = true →
      Scan.step ⟨before, mode seen⟩ d = some ⟨before, mode (d :: seen)⟩)
    (inside : ∀ d ∈ text, belongs d = true) (before : List JsonLexeme) (seen : List Char) :
    (text ++ rest).foldlM Scan.step ⟨before, mode seen⟩ =
      rest.foldlM Scan.step ⟨before, mode (text.reverse ++ seen)⟩ := by
  induction text generalizing seen with
  | nil => rfl
  | cons d text ih =>
    have here := collects before seen d (inside d List.mem_cons_self)
    have later := ih (fun e member => inside e (List.mem_cons_of_mem d member)) (d :: seen)
    simpa [here] using later

/-- A lexeme that is collected character by character, up to one that does not belong to it. -/
theorem collected (mode : List Char → Mode) (belongs : Char → Bool) {c : Char} {text : List Char}
    {lexeme : JsonLexeme} (opens : ∀ before, Scan.start before c = some ⟨before, mode [c]⟩)
    (collects : ∀ before seen d, belongs d = true →
      Scan.step ⟨before, mode seen⟩ d = some ⟨before, mode (d :: seen)⟩)
    (ends : ∀ before d, belongs d = false →
      Scan.step ⟨before, mode (text.reverse ++ [c])⟩ d = Scan.start (lexeme :: before) d)
    (finishes : ∀ before, Scan.finish ⟨before, mode (text.reverse ++ [c])⟩ =
      some (lexeme :: before).reverse)
    (inside : ∀ d ∈ text, belongs d = true) (breaks : ∀ d ∈ rest.head?, belongs d = false)
    (spelled : Spells rest lexemes) : Spells (c :: text ++ rest) (lexeme :: lexemes) := by
  intro before
  have closed : (rest.foldlM Scan.step ⟨before, mode (text.reverse ++ [c])⟩).bind Scan.finish =
      (rest.foldlM Scan.step ⟨lexeme :: before, .between⟩).bind Scan.finish := by
    cases rest with
    | nil => simpa [Scan.finish] using finishes before
    | cons d rest =>
      -- The next character starts anew, as it would right behind the lexeme.
      rw [List.foldlM_cons, List.foldlM_cons, ends before d (breaks d rfl)]
      rfl
  rw [List.cons_append, List.foldlM_cons, Scan.step, opens, Option.bind_eq_bind, Option.bind_some,
    foldlM_collect collects inside before [c], closed, spelled (lexeme :: before)]
  simp

theorem number {n : JsonNumber} (word : n.isWord = true) (breaks : Breaks rest)
    (spelled : Spells rest lexemes) : Spells (n.text ++ rest) (.num (some n) :: lexemes) := by
  obtain ⟨c, text, shape, first, numeric⟩ := exists_numeral word
  have opens (before : List JsonLexeme) : Scan.start before c = some ⟨before, .number [c]⟩ := by
    have differs : ∀ d ∈ [' ', '\n', '\r', '\t', '"'], c ≠ d := by
      rintro d member rfl
      rcases first with digit | rfl
      · have none : ∀ d ∈ [' ', '\n', '\r', '\t', '"'], d.isDigit = false := by simp
        rw [none c member] at digit
        cases digit
      · revert member
        decide
    have either : (c.isDigit || c == '-') = true := by simpa using first
    simp at differs
    simp [Scan.start, isBlank, differs, either]
  have numeral : number? (text.reverse ++ [c]).reverse = some (.num (some n)) := by
    simpa [← shape] using number?_text word
  rw [shape]
  refine collected .number isNumberChar opens ?_ ?_ ?_ numeric (fun d next => (breaks d next).1)
    spelled
  · intro before seen d belongs
    simp [Scan.step, belongs]
  · intro before d foreign
    simp only [Scan.step, foreign, numeral]
    rfl
  · intro before
    simp only [Scan.finish, numeral]
    rfl

theorem word {c : Char} {text : List Char} {lexeme : JsonLexeme}
    (named : word? (c :: text) = some lexeme)
    (opens : ∀ before, Scan.start before c = some ⟨before, .word [c]⟩)
    (lower : text.all Char.isLower = true) (breaks : Breaks rest)
    (spelled : Spells rest lexemes) : Spells (c :: text ++ rest) (lexeme :: lexemes) := by
  have word : word? (text.reverse ++ [c]).reverse = some lexeme := by simpa using named
  refine collected .word Char.isLower opens ?_ ?_ ?_ (List.all_eq_true.mp lower)
    (fun d next => (breaks d next).2) spelled
  · intro before seen d belongs
    simp [Scan.step, belongs]
  · intro before d foreign
    simp only [Scan.step, foreign, word]
    rfl
  · intro before
    simp only [Scan.finish, word]
    rfl

/-! ### Strings -/

theorem foldlM_escapeChar (before : List JsonLexeme) (units : List Nat) (c : Char) :
    (Json.escapeChar c ++ rest).foldlM Scan.step ⟨before, .string units⟩ =
      rest.foldlM Scan.step ⟨before, .string (c.toNat :: units)⟩ := by
  have short (letter plain : Char) (stands : escaped? letter = some plain) (other : letter ≠ 'u') :
      ('\\' :: letter :: rest).foldlM Scan.step ⟨before, .string units⟩ =
        rest.foldlM Scan.step ⟨before, .string (plain.toNat :: units)⟩ := by
    simp [Scan.step, stands, other]
  unfold Json.escapeChar
  simp only [beq_iff_eq]
  split
  next same => exact same ▸ short '"' '"' rfl (by decide)
  split
  next same => exact same ▸ short '\\' '\\' rfl (by decide)
  split
  next same => exact same ▸ short 'b' '\x08' rfl (by decide)
  split
  next same => exact same ▸ short 'f' '\x0c' rfl (by decide)
  split
  next same => exact same ▸ short 'n' '\n' rfl (by decide)
  split
  next same => exact same ▸ short 'r' '\r' rfl (by decide)
  split
  next same => exact same ▸ short 't' '\t' rfl (by decide)
  split
  next control =>
    -- Two zeros and the two digits of the code add up to the code.
    have upper := Text.hexValue?_hexDigit (c.toNat / 16) (by omega)
    have lower := Text.hexValue?_hexDigit (c.toNat % 16) (by omega)
    have zero : Text.hexValue? '0' = some 0 := by decide
    have code : 16 * (c.toNat / 16) + c.toNat % 16 = c.toNat := by omega
    simp [Scan.step, zero, upper, lower, code]
  next quoted backslash _ _ _ _ _ plain => simp [Scan.step, quoted, backslash, plain]

theorem foldlM_escaped (before : List JsonLexeme) (units : List Nat) (text : List Char) :
    (text.flatMap Json.escapeChar ++ rest).foldlM Scan.step ⟨before, .string units⟩ =
      rest.foldlM Scan.step ⟨before, .string ((text.map Char.toNat).reverse ++ units)⟩ := by
  induction text generalizing units with
  | nil => rfl
  | cons c text ih =>
    rw [List.flatMap_cons, List.append_assoc, foldlM_escapeChar, ih]
    simp

theorem quote (s : String) (spelled : Spells rest lexemes) :
    Spells (Json.quote s ++ rest) (.str (some s) :: lexemes) := by
  intro before
  have opened : Scan.step ⟨before, .between⟩ '"' = some ⟨before, .string []⟩ := rfl
  have closed : Scan.step ⟨before, .string ((s.toList.map Char.toNat).reverse ++ [])⟩ '"' =
      some ⟨.str (some s) :: before, .between⟩ := by
    simp [Scan.step, charsOfUnits?_map_toNat]
  rw [Json.quote, List.cons_append, List.foldlM_cons, opened, Option.bind_eq_bind, Option.bind_some,
    List.append_assoc, foldlM_escaped, List.singleton_append, List.foldlM_cons, closed,
    Option.bind_eq_bind, Option.bind_some, spelled (.str (some s) :: before)]
  simp

end Spells

end JsonLexeme

end ManifestLint
