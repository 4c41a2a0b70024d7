/-!
# Wildcards

A pattern is matched against a text as a whole. `?` stands for a character, `*` for any characters,
`**` for any number of whole directories or for all that is left, `[..]` for a character of a class
and `[!..]` for one outside it. A pattern in which these are malformed is no pattern at all.
-/
namespace ManifestLint.Wildcard

/-- A part of a class of characters, a character or a range. -/
inductive ClassItem where
  | char (c : Char)
  | range (first last : Char)
  deriving DecidableEq, Repr

/-- A part of a pattern. -/
inductive Atom where
  | char (c : Char)
  | anyChar
  | anyRun
  | anyDirectories
  | inClass (items : List ClassItem)
  | notInClass (items : List ClassItem)
  deriving DecidableEq, Repr

/-- Whether a part of a class holds a character. -/
def ClassItem.holds (c : Char) : ClassItem → Bool
  | .char d => c == d
  | .range first last => first ≤ c && c ≤ last

/-- The parts of a class: three characters with a minus in the middle are a range. -/
def classItems : List Char → List ClassItem
  | first :: '-' :: last :: rest => .range first last :: classItems rest
  | c :: rest => .char c :: classItems rest
  | [] => []

/-- The text before and after the first closing bracket. -/
def splitClass? : List Char → Option (List Char × List Char)
  | [] => none
  | ']' :: rest => some ([], rest)
  | c :: rest => (splitClass? rest).map fun (inside, after) => (c :: inside, after)

/-- The class behind an opening bracket. It has at least one character, so a bracket that comes
first belongs to it. -/
def readClass? : List Char → Option (Atom × List Char)
  | '!' :: c :: rest => (splitClass? rest).map fun (inside, after) =>
    (.notInClass (classItems (c :: inside)), after)
  | '!' :: [] => none
  | c :: rest => (splitClass? rest).map fun (inside, after) =>
    (.inClass (classItems (c :: inside)), after)
  | [] => none

/-- Reads a pattern. `atStart` tells that a directory may begin here; two stars must stand there,
and a slash or the end must follow them. Every part takes one of the given number of rounds. -/
def read? (atStart : Bool) : Nat → List Char → Option (List Atom)
  | 0, _ => none
  | _ + 1, [] => some []
  | rounds + 1, '*' :: '*' :: rest =>
    if !atStart then none
    else match rest with
      | [] => some [.anyDirectories]
      | '/' :: rest => (read? true rounds rest).map (.anyDirectories :: ·)
      | _ => none
  | rounds + 1, '*' :: rest => (read? false rounds rest).map (.anyRun :: ·)
  | rounds + 1, '?' :: rest => (read? false rounds rest).map (.anyChar :: ·)
  | rounds + 1, '[' :: rest => do
    let (atom, rest) ← readClass? rest
    (read? false rounds rest).map (atom :: ·)
  | rounds + 1, c :: rest => (read? (c == '/') rounds rest).map (.char c :: ·)

/-- The parts of a pattern, if it is one. -/
def parse? (pattern : String) : Option (List Atom) :=
  read? true (pattern.length + 1) pattern.toList

/-- What is left of a text after any number of characters. -/
def suffixes : List Char → List (List Char)
  | [] => [[]]
  | c :: rest => (c :: rest) :: suffixes rest

theorem mem_suffixes {text rest : List Char} :
    rest ∈ suffixes text ↔ ∃ before, text = before ++ rest := by
  induction text with
  | nil => simp [suffixes]
  | cons c text ih =>
    rw [suffixes, List.mem_cons, ih]
    constructor
    · rintro (rfl | ⟨before, rfl⟩)
      · exact ⟨[], rfl⟩
      · exact ⟨c :: before, rfl⟩
    · rintro ⟨before, whole⟩
      cases before with
      | nil => exact .inl whole.symm
      | cons d before => exact .inr ⟨before, (List.cons.inj whole).2⟩

/-- What is left of a text after any number of whole directories, but not none. -/
def afterSlashes : List Char → List (List Char)
  | [] => []
  | c :: rest => if c = '/' then rest :: afterSlashes rest else afterSlashes rest

/-- Whether a part of a pattern that stands for one character stands for the given one. Single
characters may be slashes. -/
def Atom.holds : Atom → Char → Bool
  | .char expected, c => c == expected
  | .anyChar, _ => true
  | .inClass items, c => items.any (·.holds c)
  | .notInClass items, c => !items.any (·.holds c)
  | .anyRun, _ | .anyDirectories, _ => false

/-! ### Matching

A row tells of a text and each of its suffixes, the longest first, whether a pattern matches it. The
row of a pattern is made from the row of the pattern without its first part, so that no suffix is
tried twice, however many stars there are. -/

/-- The row of one character in front of a pattern with the given row. -/
def rowOfChar (holds : Char → Bool) : List Char → List Bool → List Bool
  | c :: text, _ :: later => (holds c && later.headD false) :: rowOfChar holds text later
  | _, _ => [false]

/-- The row of any characters in front of a pattern with the given row. -/
def rowOfRun : List Bool → List Bool
  | [] => []
  | here :: later =>
    let row := rowOfRun later
    (here || row.headD false) :: row

/-- The row of whole directories, but not none, in front of a pattern with the given row. At the end
of the text, directories need no slash behind them. -/
def rowOfDirectories : List Char → List Bool → List Bool
  | c :: text, _ :: later =>
    let row := rowOfDirectories text later
    ((c == '/' && later.headD false) || row.headD false) :: row
  | _, later => later

/-- The row of a pattern. -/
def matchRow : List Atom → List Char → List Bool
  | [], text => (suffixes text).map List.isEmpty
  | .anyRun :: atoms, text => rowOfRun (matchRow atoms text)
  | .anyDirectories :: atoms, text =>
    let later := matchRow atoms text
    later.zipWith (· || ·) (rowOfDirectories text later)
  | atom :: atoms, text => rowOfChar atom.holds text (matchRow atoms text)

/-- Whether the parts of a pattern match a text as a whole. -/
def isMatch (atoms : List Atom) (text : List Char) : Bool := (matchRow atoms text).headD false

theorem matchRow_nil (atoms : List Atom) : matchRow atoms [] = [isMatch atoms []] := by
  have single : ∃ b, matchRow atoms [] = [b] := by
    induction atoms with
    | nil => exact ⟨true, rfl⟩
    | cons atom atoms ih =>
      obtain ⟨b, row⟩ := ih
      cases atom <;> simp [matchRow, row, rowOfChar, rowOfRun, rowOfDirectories]
  obtain ⟨b, row⟩ := single
  rw [isMatch, row, List.headD_cons]

/-- The row of a text goes on with the row of what follows its first character. -/
theorem matchRow_cons (atoms : List Atom) (c : Char) (text : List Char) :
    matchRow atoms (c :: text) = isMatch atoms (c :: text) :: matchRow atoms text := by
  have step : ∃ b, matchRow atoms (c :: text) = b :: matchRow atoms text := by
    induction atoms with
    | nil => exact ⟨false, rfl⟩
    | cons atom atoms ih =>
      obtain ⟨b, row⟩ := ih
      cases atom <;> simp [matchRow, row, rowOfChar, rowOfRun, rowOfDirectories]
  obtain ⟨b, row⟩ := step
  rw [isMatch, row, List.headD_cons]

/-- A row answers for each suffix as the pattern does. -/
theorem matchRow_eq_map (atoms : List Atom) (text : List Char) :
    matchRow atoms text = (suffixes text).map (isMatch atoms) := by
  induction text with
  | nil => rw [matchRow_nil, suffixes, List.map_singleton]
  | cons c text ih => rw [matchRow_cons, suffixes, List.map_cons, ih]

/-- A pattern without parts matches the empty text only. -/
theorem isMatch_nil (text : List Char) : isMatch [] text = text.isEmpty := by
  cases text <;> rfl

/-- Any characters may stand in front of what matches. -/
theorem isMatch_anyRun (atoms : List Atom) (text : List Char) :
    isMatch (.anyRun :: atoms) text = (suffixes text).any (isMatch atoms) := by
  rw [isMatch, matchRow]
  induction text with
  | nil => simp [matchRow_nil, rowOfRun, suffixes]
  | cons c text ih => rw [matchRow_cons, rowOfRun, List.headD_cons, ih, suffixes, List.any_cons]

theorem headD_rowOfDirectories (atoms : List Atom) (text : List Char) :
    (rowOfDirectories text (matchRow atoms text)).headD false =
      (afterSlashes text ++ [[]]).any (isMatch atoms) := by
  induction text with
  | nil => simp [matchRow_nil, rowOfDirectories, afterSlashes]
  | cons c text ih =>
    rw [matchRow_cons, rowOfDirectories, List.headD_cons, ih, ← isMatch, afterSlashes]
    by_cases slash : c = '/' <;> simp [slash]

/-- Whole directories may stand in front of what matches, or all of the text. -/
theorem isMatch_anyDirectories (atoms : List Atom) (text : List Char) :
    isMatch (.anyDirectories :: atoms) text =
      (isMatch atoms text || (afterSlashes text ++ [[]]).any (isMatch atoms)) := by
  rw [← headD_rowOfDirectories, isMatch, matchRow]
  cases text with
  | nil => simp [matchRow_nil, rowOfDirectories]
  | cons c text => simp [matchRow_cons, rowOfDirectories]

/-- A part that stands for one character takes the first of a text. -/
theorem isMatch_cons (atom : Atom) (atoms : List Atom) (c : Char) (text : List Char)
    (single : atom ≠ .anyRun ∧ atom ≠ .anyDirectories) :
    isMatch (atom :: atoms) (c :: text) = (atom.holds c && isMatch atoms text) := by
  have row : matchRow (atom :: atoms) (c :: text) =
      rowOfChar atom.holds (c :: text) (matchRow atoms (c :: text)) := by
    cases atom <;> simp_all [matchRow]
  rw [isMatch, row, matchRow_cons, rowOfChar, List.headD_cons, ← isMatch]

/-- A part that stands for one character does not match the empty text. -/
theorem isMatch_cons_nil (atom : Atom) (atoms : List Atom)
    (single : atom ≠ .anyRun ∧ atom ≠ .anyDirectories) : isMatch (atom :: atoms) [] = false := by
  cases atom <;> simp_all [isMatch, matchRow, rowOfChar]

end ManifestLint.Wildcard
