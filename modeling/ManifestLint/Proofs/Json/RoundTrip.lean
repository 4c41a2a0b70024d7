import ManifestLint.Json.Reader
import ManifestLint.Proofs.Json.Lexeme

/-!
# Writing and reading documents

A value is written as its lexemes, in the compact form without white space and in the pretty form
with some, and the lexemes are assembled into the value again. So what is written, in either form,
is read back as it was, if all of it denotes something and its numbers are integers of 64 bits.
-/
namespace ManifestLint.Json

mutual

/-- Whether every number in a value is an integer of 64 bits. -/
def holdsWords : Json → Bool
  | .num n => n.isWord
  | .arr items => wordItems items
  | .obj members => wordMembers members
  | _ => true

/-- Whether every number in the items of an array is an integer of 64 bits. -/
def wordItems : List Json → Bool
  | [] => true
  | x :: xs => holdsWords x && wordItems xs

/-- Whether every number in the members of an object is an integer of 64 bits. -/
def wordMembers : List (String × Json) → Bool
  | [] => true
  | (_, x) :: xs => holdsWords x && wordMembers xs

end

/-! ### Numbers that are words -/

theorem asNat?_lt {value : Json} {n : Nat} (read : value.asNat? = some n) : n < Text.wordCount := by
  unfold asNat? at read
  split at read
  · split at read
    next bound => cases read; exact bound
    · cases read
  · cases read

theorem asNat?_nat {n : Nat} (bound : n < Text.wordCount) : (nat n).asNat? = some n := by
  simp [nat, asNat?, bound]

theorem holdsWords_nat {n : Nat} (bound : n < Text.wordCount) : (nat n).holdsWords = true :=
  decide_eq_true bound

theorem wordItems_iff {items : List Json} :
    wordItems items = true ↔ ∀ item ∈ items, item.holdsWords = true := by
  induction items with
  | nil => simp [wordItems]
  | cons item items ih => simp [wordItems, ih]

theorem wordMembers_iff {members : List (String × Json)} :
    wordMembers members = true ↔ ∀ member ∈ members, member.2.holdsWords = true := by
  induction members with
  | nil => simp [wordMembers]
  | cons member members ih => simp [wordMembers, ih]

mutual

/-- The lexemes a value is written with. -/
def lexemes : Json → List JsonLexeme
  | .null => [.null]
  | .bool b => [.bool b]
  | .num n => [.num (some n)]
  | .str s => [.str (some s)]
  | .arr items => .lbrack :: (itemLexemes items ++ [.rbrack])
  | .obj members => .lbrace :: (memberLexemes members ++ [.rbrace])
  | .unreadable => [.null]

/-- The lexemes of the items of an array, with commas between them. -/
def itemLexemes : List Json → List JsonLexeme
  | [] => []
  | [x] => lexemes x
  | x :: xs => lexemes x ++ .comma :: itemLexemes xs

/-- The lexemes of the members of an object, with commas between them. -/
def memberLexemes : List (String × Json) → List JsonLexeme
  | [] => []
  | [(name, x)] => .str (some name) :: .colon :: lexemes x
  | (name, x) :: xs => .str (some name) :: .colon :: (lexemes x ++ .comma :: memberLexemes xs)

end

open JsonLexeme

/-! ### What is written is read as the lexemes of the value -/

section Spelling

variable {rest : List Char} {behind : List JsonLexeme}

theorem spells_scalarText {value : Json} (scalar : ∀ items, value ≠ .arr items)
    (plain : ∀ members, value ≠ .obj members) (words : value.holdsWords = true)
    (breaks : Breaks rest) (spelled : Spells rest behind) :
    Spells (scalarText value ++ rest) (lexemes value ++ behind) := by
  cases value with
  | null => exact Spells.word rfl (fun _ => rfl) (by decide) breaks spelled
  | bool b => cases b <;> exact Spells.word rfl (fun _ => rfl) (by decide) breaks spelled
  | num n => exact Spells.number words breaks spelled
  | str s => exact Spells.quote s spelled
  | arr items => exact absurd rfl (scalar items)
  | obj members => exact absurd rfl (plain members)
  | unreadable => exact Spells.word rfl (fun _ => rfl) (by decide) breaks spelled

theorem breaks_nil : Breaks [] := by
  rintro _ ⟨⟩

theorem breaks_comma : Breaks (',' :: rest) := breaks_cons rest rfl rfl

theorem breaks_rbrack : Breaks (']' :: rest) := breaks_cons rest rfl rfl

theorem breaks_rbrace : Breaks ('}' :: rest) := breaks_cons rest rfl rfl

theorem breaks_newline (indent : Nat) : Breaks (newline indent ++ rest) := breaks_cons _ rfl rfl

theorem spells_newline (indent : Nat) (spelled : Spells rest behind) :
    Spells (newline indent ++ rest) behind := by
  refine Spells.blanks (fun c member => ?_) spelled
  rcases List.mem_cons.mp member with rfl | indented
  · rfl
  · rw [List.eq_of_mem_replicate indented]
    rfl

end Spelling

mutual

theorem spells_compact {rest : List Char} {behind : List JsonLexeme} (value : Json)
    (words : value.holdsWords = true) (breaks : Breaks rest) (spelled : Spells rest behind) :
    Spells (compact value ++ rest) (lexemes value ++ behind) := by
  cases value with
  | arr items =>
    have inner := spells_compactItems items words breaks_rbrack (Spells.punctuation rfl spelled)
    simpa [compact, lexemes] using Spells.punctuation rfl inner
  | obj members =>
    have inner := spells_compactMembers members words breaks_rbrace (Spells.punctuation rfl spelled)
    simpa [compact, lexemes] using Spells.punctuation rfl inner
  | _ => exact spells_scalarText (by simp) (by simp) words breaks spelled

theorem spells_compactItems {rest : List Char} {behind : List JsonLexeme} (items : List Json)
    (words : wordItems items = true) (breaks : Breaks rest) (spelled : Spells rest behind) :
    Spells (compactItems items ++ rest) (itemLexemes items ++ behind) := by
  match items with
  | [] => exact spelled
  | [x] =>
    simp only [wordItems, Bool.and_true] at words
    exact spells_compact x words breaks spelled
  | x :: y :: items =>
    rw [wordItems, Bool.and_eq_true] at words
    have later := spells_compactItems (y :: items) words.2 breaks spelled
    have item := spells_compact x words.1 breaks_comma (Spells.punctuation rfl later)
    simpa [compactItems, itemLexemes] using item

theorem spells_compactMembers {rest : List Char} {behind : List JsonLexeme}
    (members : List (String × Json)) (words : wordMembers members = true) (breaks : Breaks rest)
    (spelled : Spells rest behind) :
    Spells (compactMembers members ++ rest) (memberLexemes members ++ behind) := by
  match members with
  | [] => exact spelled
  | [(name, x)] =>
    simp only [wordMembers, Bool.and_true] at words
    have value := spells_compact x words breaks spelled
    simpa [compactMembers, memberLexemes] using Spells.quote name (Spells.punctuation rfl value)
  | (name, x) :: y :: members =>
    rw [wordMembers, Bool.and_eq_true] at words
    have later := spells_compactMembers (y :: members) words.2 breaks spelled
    have value := spells_compact x words.1 breaks_comma (Spells.punctuation rfl later)
    simpa [compactMembers, memberLexemes] using Spells.quote name (Spells.punctuation rfl value)

end

mutual

theorem spells_pretty {rest : List Char} {behind : List JsonLexeme} (indent : Nat) (value : Json)
    (words : value.holdsWords = true) (breaks : Breaks rest) (spelled : Spells rest behind) :
    Spells (pretty indent value ++ rest) (lexemes value ++ behind) := by
  match value with
  | .arr [] => exact Spells.punctuation rfl (Spells.punctuation rfl spelled)
  | .arr (x :: items) =>
    have close := spells_newline indent (Spells.punctuation (c := ']') rfl spelled)
    have inner := spells_prettyItems (indent + 1) (x :: items) words (breaks_newline indent) close
    simpa [pretty, lexemes] using Spells.punctuation rfl inner
  | .obj [] => exact Spells.punctuation rfl (Spells.punctuation rfl spelled)
  | .obj (x :: members) =>
    have close := spells_newline indent (Spells.punctuation (c := '}') rfl spelled)
    have inner :=
      spells_prettyMembers (indent + 1) (x :: members) words (breaks_newline indent) close
    simpa [pretty, lexemes] using Spells.punctuation rfl inner
  | .null | .bool _ | .num _ | .str _ | .unreadable =>
    exact spells_scalarText (by simp) (by simp) words breaks spelled

theorem spells_prettyItems {rest : List Char} {behind : List JsonLexeme} (indent : Nat)
    (items : List Json) (words : wordItems items = true) (breaks : Breaks rest)
    (spelled : Spells rest behind) :
    Spells (prettyItems indent items ++ rest) (itemLexemes items ++ behind) := by
  match items with
  | [] => exact spelled
  | [x] =>
    simp only [wordItems, Bool.and_true] at words
    have item := spells_pretty indent x words breaks spelled
    simpa [prettyItems, itemLexemes] using spells_newline indent item
  | x :: y :: items =>
    rw [wordItems, Bool.and_eq_true] at words
    have later := spells_prettyItems indent (y :: items) words.2 breaks spelled
    have item := spells_pretty indent x words.1 breaks_comma (Spells.punctuation rfl later)
    simpa [prettyItems, itemLexemes] using spells_newline indent item

theorem spells_prettyMembers {rest : List Char} {behind : List JsonLexeme} (indent : Nat)
    (members : List (String × Json)) (words : wordMembers members = true) (breaks : Breaks rest)
    (spelled : Spells rest behind) :
    Spells (prettyMembers indent members ++ rest) (memberLexemes members ++ behind) := by
  match members with
  | [] => exact spelled
  | [(name, x)] =>
    simp only [wordMembers, Bool.and_true] at words
    have value := Spells.blank (c := ' ') rfl (spells_pretty indent x words breaks spelled)
    have member := Spells.quote name (Spells.punctuation (c := ':') rfl value)
    simpa [prettyMembers, memberLexemes] using spells_newline indent member
  | (name, x) :: y :: members =>
    rw [wordMembers, Bool.and_eq_true] at words
    have later := spells_prettyMembers indent (y :: members) words.2 breaks spelled
    have value := Spells.blank (c := ' ') rfl
      (spells_pretty indent x words.1 breaks_comma (Spells.punctuation rfl later))
    have member := Spells.quote name (Spells.punctuation (c := ':') rfl value)
    simpa [prettyMembers, memberLexemes] using spells_newline indent member

end

/-! ### Lexemes are assembled into the value -/

theorem mapM_map_of_some {α β γ : Type} {write : α → β} {read : β → Option γ} {result : α → γ}
    {list : List α} (each : ∀ a ∈ list, read (write a) = some (result a)) :
    (list.map write).mapM read = some (list.map result) := by
  induction list with
  | nil => rfl
  | cons a list ih =>
    have later := ih fun b member => each b (List.mem_cons_of_mem a member)
    rw [List.map_cons, List.mapM_cons, each a List.mem_cons_self, later]
    rfl

theorem objectOf_map (members : List (String × Json)) :
    objectOf (members.map fun member => (some member.1, member.2)) = .obj members := by
  have named : (members.map fun member => (some member.1, member.2)).mapM
      (fun member : ReadMember => member.1.map (·, member.2)) = some (members.map id) :=
    mapM_map_of_some fun _ _ => rfl
  rw [List.map_id] at named
  exact congrArg (fun read => read.elim Json.unreadable Json.obj) named

theorem foldlM_item (stack : List Frame) (value : Json) (rest : List JsonLexeme) :
    (lexemes value ++ rest).foldlM Assembly.step ⟨stack, .item⟩ =
      (lexemes value ++ rest).foldlM Assembly.step ⟨stack, .value⟩ := by
  cases value <;> rfl

theorem exists_itemLexemes (x : Json) (items : List Json) :
    ∃ more, itemLexemes (x :: items) = lexemes x ++ more := by
  cases items with
  | nil => exact ⟨[], by simp [itemLexemes]⟩
  | cons y items => exact ⟨.comma :: itemLexemes (y :: items), by simp [itemLexemes]⟩

mutual

theorem foldlM_lexemes (stack : List Frame) (value : Json) (readable : value.isReadable = true)
    (rest : List JsonLexeme) :
    (lexemes value ++ rest).foldlM Assembly.step ⟨stack, .value⟩ =
      rest.foldlM Assembly.step (Assembly.deliver value stack) := by
  match value with
  | .null | .bool _ | .num _ | .str _ => rfl
  | .arr [] => rfl
  | .arr (x :: items) =>
    have inner := foldlM_itemLexemes stack [] (x :: items) (by simp) readable rest
    have opened : (lexemes (.arr (x :: items)) ++ rest).foldlM Assembly.step ⟨stack, .value⟩ =
        (itemLexemes (x :: items) ++ .rbrack :: rest).foldlM Assembly.step
          ⟨.array [] :: stack, .item⟩ := by
      rw [lexemes, List.cons_append, List.append_assoc]
      rfl
    -- Behind the bracket an end would be allowed as well, but a value comes.
    obtain ⟨more, shape⟩ := exists_itemLexemes x items
    rw [shape, List.append_assoc] at opened inner
    rw [opened, foldlM_item, inner]
    rfl
  | .obj [] => rfl
  | .obj ((name, x) :: members) =>
    have inner := foldlM_memberLexemes stack [] ((name, x) :: members) (by simp) readable rest
    rw [List.reverse_nil, List.nil_append, objectOf_map] at inner
    rw [← inner, lexemes, List.cons_append, List.append_assoc]
    cases members <;> rfl
  | .unreadable => cases readable

theorem foldlM_itemLexemes (stack : List Frame) (before items : List Json) (nonempty : items ≠ [])
    (readable : readableItems items = true) (rest : List JsonLexeme) :
    (itemLexemes items ++ .rbrack :: rest).foldlM Assembly.step
        ⟨.array before :: stack, .value⟩ =
      rest.foldlM Assembly.step (Assembly.deliver (.arr (before.reverse ++ items)) stack) := by
  match items with
  | [] => exact absurd rfl nonempty
  | [x] =>
    rw [readableItems, Bool.and_eq_true] at readable
    rw [itemLexemes, foldlM_lexemes _ x readable.1, ← List.reverse_cons]
    rfl
  | x :: y :: items =>
    rw [readableItems, Bool.and_eq_true] at readable
    have later := foldlM_itemLexemes stack (x :: before) (y :: items) (by simp) readable.2 rest
    rw [List.reverse_cons, List.append_assoc, List.singleton_append] at later
    rw [itemLexemes, List.append_assoc, foldlM_lexemes _ x readable.1, ← later]
    · rfl
    · simp

theorem foldlM_memberLexemes (stack : List Frame) (before : List ReadMember)
    (members : List (String × Json)) (nonempty : members ≠ [])
    (readable : readableMembers members = true) (rest : List JsonLexeme) :
    (memberLexemes members ++ .rbrace :: rest).foldlM Assembly.step ⟨stack, .name before⟩ =
      rest.foldlM Assembly.step (Assembly.deliver (objectOf (before.reverse ++
        members.map fun member => (some member.1, member.2))) stack) := by
  match members with
  | [] => exact absurd rfl nonempty
  | [(name, x)] =>
    rw [readableMembers, Bool.and_eq_true] at readable
    rw [List.map_cons, List.map_nil, ← List.reverse_cons]
    exact foldlM_lexemes (.object before name :: stack) x readable.1 (.rbrace :: rest)
  | (name, x) :: y :: members =>
    rw [readableMembers, Bool.and_eq_true] at readable
    have later := foldlM_memberLexemes stack ((name, x) :: before) (y :: members) (by simp)
      readable.2 rest
    rw [List.reverse_cons, List.append_assoc, List.singleton_append] at later
    rw [List.map_cons, ← later, memberLexemes, List.cons_append, List.cons_append,
      List.append_assoc]
    · exact foldlM_lexemes (.object before name :: stack) x readable.1
        (.comma :: (memberLexemes (y :: members) ++ .rbrace :: rest))
    · simp

end

theorem ofLexemes?_lexemes {value : Json} (readable : value.isReadable = true) :
    ofLexemes? (lexemes value) = some value := by
  have assembled := foldlM_lexemes [] value readable []
  rw [List.append_nil] at assembled
  rw [ofLexemes?, assembled]
  rfl

/-! ### Documents -/

/-- What is written in the compact form is read back. -/
theorem parse?_toCompact {value : Json} (readable : value.isReadable = true)
    (words : value.holdsWords = true) : parse? value.toCompact = some value := by
  have spelled := spells_compact value words breaks_nil Spells.nil
  rw [List.append_nil, List.append_nil] at spelled
  rw [parse?, toCompact, String.toList_ofList, read_of_spells spelled]
  exact ofLexemes?_lexemes readable

/-- What is written in the pretty form is read back. -/
theorem parse?_toPretty {value : Json} (readable : value.isReadable = true)
    (words : value.holdsWords = true) : parse? value.toPretty = some value := by
  have spelled := spells_pretty 0 value words breaks_nil Spells.nil
  rw [List.append_nil, List.append_nil] at spelled
  rw [parse?, toPretty, String.toList_ofList, read_of_spells spelled]
  exact ofLexemes?_lexemes readable

end ManifestLint.Json
