import Mathlib.Data.Finset.Basic
import ManifestLint.Proofs.Linter.RepairPass
import ManifestLint.Proofs.Spelling.Reading

/-!
# Absolute names in a manifest

A leading `::` in the manifest never matters. Names of classes, of defined types and of types of
resources may be made absolute, any number of them at once, and the stream still reads as before.
The one text of a name that could be quoted as it is would be a key of data that is fetched, and no
name stands where such a key stands.
-/
namespace ManifestLint

namespace Name

theorem dropTopScope_of_relative {name : List Char} (relative : ¬ "::".toList <+: name) :
    dropTopScope name = name := by
  fun_cases dropTopScope name with
  | case1 rest => exact absurd ⟨rest, rfl⟩ relative
  | case2 => rfl

theorem normalize_of_relative {name : String} (relative : ¬ "::".toList <+: name.toList) :
    normalize name = name := by
  rw [normalize, dropTopScope_of_relative relative, String.ofList_toList]

end Name

theorem not_reserved_absolute (name : String) : ¬ Reserved ("::" ++ name) := by
  have colons : ("::" ++ name).toList = ':' :: ':' :: name.toList := by simp
  have words : ∀ word ∈ lookupFunction :: legacyLookupFunctions ++ includeWords,
      word.toList.head? ≠ some ':' := by decide
  rintro (listed | ⟨rest, equal⟩)
  · have first := words _ listed
    rw [colons] at first
    exact first rfl
  · have first := congrArg List.head? (equal.trans colons)
    have opening : validatePrefix.head? = some 'v' := by decide
    simp [opening] at first

namespace TokenStream

/-- The stream with the names at some positions made absolute. -/
def absolute (s : TokenStream) (positions : Finset Nat) : TokenStream :=
  ofTokens (s.tokens.mapIdx fun i token =>
    if i ∈ positions then { token with text := "::" ++ token.text } else token)

/-- A token whose text is a relative name and nothing but a name: of a class or a defined type that
is defined, included or declared, or of the type of a resource. -/
structure SpellsName (s : TokenStream) (i : Nat) : Prop where
  role : (∃ b ∈ s.definitions, b.kind.name? = some i) ∨ (∃ word, s.includedClass? word = some i) ∨
    (∃ keyword, s.declaredClass? keyword = some i) ∨ s.isResourceType i = true
  kind : s.isKind i .name = true ∨ s.isKind i .string = true ∨ s.isKind i .quoted = true
  untitled : ∀ b ∈ s.nodes, i ∉ b.kind.titles
  relative : ¬ "::".toList <+: (s.text i).toList
  free : ¬ Reserved (s.text i)

variable {s : TokenStream} {i : Nat}

/-! ### No name is a key -/

theorem isKind_name_of_mem_definitions {b : Block} (member : b ∈ s.definitions)
    (named : b.kind.name? = some i) : s.isKind i .name = true := by
  obtain ⟨name, params, head, body, isDefinition⟩ := mem_definitions_iff.mp member
  cases isDefinition.kind_parts.1.symm.trans named
  exact isDefinition.named

/-- The argument of a call that fetches data stands behind a parenthesis, and that behind the call,
which is no word that includes a class. -/
theorem exists_paren_of_fetches {call argument : Nat} (fetches : s.Fetches call)
    (found : (s.next? call).bind s.next? = some argument) :
    ∃ paren, s.next? call = some paren ∧ s.next? paren = some argument ∧
      s.isKind paren .lparen = true ∧ s.isCode call = true ∧ s.isInclude call = false := by
  have words : ∀ word ∈ lookupFunction :: legacyLookupFunctions,
      includeWords.contains word = false := by decide
  have facts : s.isFunctionCall call = true ∧
      s.text call ∈ lookupFunction :: legacyLookupFunctions := by
    rcases fetches with lookup | legacy
    · simp_all [isLookup]
    · simp_all [isLegacyLookup]
  obtain ⟨calls, word⟩ := facts
  obtain ⟨named, follows⟩ := Bool.and_eq_true_iff.mp calls
  obtain ⟨paren, link, behind⟩ := Option.bind_eq_some_iff.mp found
  refine ⟨paren, link, behind, ?_, ?_, ?_⟩
  · simpa [nextIs, link] using follows
  · rcases Bool.or_eq_true_iff.mp named with name | function
    · exact isCode_of_isKind rfl name
    · exact isCode_of_isKind rfl function
  · rw [isInclude, words _ word, Bool.and_false, Bool.false_and]

/-- No text that spells a name is the key of data that is fetched. -/
theorem SpellsName.not_key (spelled : s.SpellsName i) {call : Nat} (fetches : s.Fetches call)
    (found : (s.next? call).bind s.next? = some i)
    (literal : s.isKind i .string = true ∨ s.isKind i .quoted = true) : False := by
  have noName : s.isKind i .name = false := by
    rcases literal with holds | holds
    · exact isKind_eq_false holds (by decide)
    · exact isKind_eq_false holds (by decide)
  obtain ⟨paren, link, behind, opens, code, word⟩ := exists_paren_of_fetches fetches found
  have parenCode : s.isCode paren = true := isCode_of_isKind rfl opens
  -- Each role but one fixes the kind of this token or of the one before it.
  rcases spelled.role with ⟨b, member, named⟩ | ⟨include', included⟩ | ⟨keyword, declared⟩ | type
  · rw [isKind_name_of_mem_definitions member named] at noName
    cases noName
  · rw [includedClass?] at included
    split at included
    next statement =>
      obtain ⟨next, first, second⟩ := Option.bind_eq_some_iff.mp included
      have includeCode : s.isCode include' = true := by
        have name := (Bool.and_eq_true_iff.mp (Bool.and_eq_true_iff.mp statement).1).1
        exact isCode_of_isKind rfl name
      split at second
      next nested =>
        -- Behind two parentheses that are one, so the call would be the word that includes.
        obtain rfl := next?_inj (isCode_of_isKind rfl nested) parenCode second behind
        obtain rfl := next?_inj includeCode code first link
        rw [word] at statement
        cases statement
      next direct =>
        cases second
        obtain rfl := next?_inj includeCode parenCode first behind
        have name := (Bool.and_eq_true_iff.mp (Bool.and_eq_true_iff.mp statement).1).1
        cases isKind_inj name opens
    · cases included
  · rw [declaredClass?] at declared
    split at declared
    next statement =>
      obtain ⟨brace, first, second⟩ := Option.bind_eq_some_iff.mp declared
      have braced : s.isKind brace .lbrace = true := by
        simpa [nextIs, first] using (Bool.and_eq_true_iff.mp statement).2
      obtain rfl := next?_inj (isCode_of_isKind rfl braced) parenCode second behind
      cases isKind_inj braced opens
    · cases declared
  · have name := (Bool.and_eq_true_iff.mp (Bool.and_eq_true_iff.mp type).1).1
    rw [name] at noName
    cases noName

/-! ### The stream reads as before -/

theorem rewrites_absolute (s : TokenStream) (positions : Finset Nat) :
    s.Rewrites (s.absolute positions) fun i text =>
      if i ∈ positions then "::" ++ text else text := by
  intro i
  rw [absolute, token?, tokens_ofTokens, Array.getElem?_mapIdx, token?]
  congr 1
  funext token
  by_cases member : i ∈ positions <;> simp [member]

section Spelled

variable {positions : Finset Nat} (spelled : ∀ i ∈ positions, s.SpellsName i)
include spelled

theorem text_absolute (i : Nat) :
    (s.absolute positions).text i = if i ∈ positions then "::" ++ s.text i else s.text i := by
  rw [text, s.rewrites_absolute positions i, text]
  cases here : s.token? i with
  | some token => rfl
  | none =>
    have outside : i ∉ positions := by
      intro member
      rcases (spelled i member).kind with kind | kind | kind <;> simp [isKind, kind?, here] at kind
    rw [if_neg outside]
    rfl

theorem readAlike_absolute : s.ReadAlike (s.absolute positions) where
  kinds := (s.rewrites_absolute positions).kinds.symm
  places := by
    intro i
    rw [s.rewrites_absolute positions i, Option.map_map]
    rfl
  names := by
    intro i
    rw [nameAt, nameAt, text_absolute spelled]
    split
    next member =>
      rw [Name.normalize_topScope, Name.normalize_of_relative (spelled i member).relative]
    · rfl
  words := by
    intro i
    rw [text_absolute spelled]
    split
    next member => exact Or.inr ⟨(spelled i member).free, not_reserved_absolute _⟩
    · exact Or.inl rfl
  parameters := by
    intro i declares
    rw [text_absolute spelled]
    split
    next member =>
      rcases (spelled i member).kind with kind | kind | kind <;> cases isKind_inj declares kind
    · rfl
  keys := by
    intro call fetches argument found literal
    rw [text_absolute spelled]
    split
    next member => exact ((spelled argument member).not_key fetches found literal).elim
    · rfl
  titles := by
    intro b node i title
    rw [text_absolute spelled]
    split
    next member => exact absurd title ((spelled i member).untitled b node)
    · rfl

end Spelled

end TokenStream

namespace Layering

/-- A leading `::` in the manifest never decides whether a check comes to an end: whatever relative
names are made absolute, stripping ends on the titles of both streams or of neither. -/
theorem strippingEnds_absolute_iff {s : TokenStream} {positions : Finset Nat}
    (spelled : ∀ i ∈ positions, s.SpellsName i) (domains : List String) :
    (s.absolute positions).StrippingEnds domains ↔ s.StrippingEnds domains := by
  rw [TokenStream.strippingEnds_iff, TokenStream.strippingEnds_iff,
    patterns_eq_of_readAlike (TokenStream.readAlike_absolute spelled)]

/-- A leading `::` in the manifest never matters: whatever relative names are made absolute, the
check of the file reports the same violations. Stripping the titles comes to an end in both streams
or in neither (`strippingEnds_absolute_iff`). -/
theorem check_absolute (c : Conventions) (path root : String) {s : TokenStream}
    {positions : Finset Nat} (spelled : ∀ i ∈ positions, s.SpellsName i) :
    check c (.ofStream path (s.absolute positions) root) = check c (.ofStream path s root) :=
  (check_eq_of_readAlike (TokenStream.readAlike_absolute spelled) c path root).symm

/-- A class that includes a class, declares a class and the role resource, and fetches data. -/
def webClass : TokenStream :=
  .ofList [.new .classKw "class" 1 1, .new .name "web" 1 7, .new .lbrace "\x7b" 1 11,
    .new .name "include" 2 3, .new .name "db" 2 11, .new .classKw "class" 3 3,
    .new .lbrace "\x7b" 3 9, .new .quoted "app" 3 11, .new .colon ":" 3 16,
    .new .rbrace "\x7d" 3 18, .new .name "system::role" 4 3, .new .lbrace "\x7b" 4 16,
    .new .rbrace "\x7d" 4 18, .new .name "lookup" 5 3, .new .lparen "(" 5 9,
    .new .quoted "web::port" 5 10, .new .rparen ")" 5 21, .new .rbrace "\x7d" 6 1]

/-- A token of each role is made absolute. Three of the four violations are about one of them. -/
theorem check_absolute_of_webClass :
    [1, 4, 7, 10].map (webClass.absolute {1, 4, 7, 10}).text =
        ["::web", "::db", "::app", "::system::role"] ∧
      (check {} (.ofStream "web.pp" webClass ".")).map Violation.token =
        [some 13, some 4, some 7, some 10] ∧
      check {} (.ofStream "web.pp" (webClass.absolute {1, 4, 7, 10}) ".") =
        check {} (.ofStream "web.pp" webClass ".") := by
  have roles : (∃ b ∈ webClass.definitions, b.kind.name? = some 1) ∧
      webClass.includedClass? 3 = some 4 ∧ webClass.declaredClass? 5 = some 7 ∧
      webClass.isResourceType 10 = true := by decide +kernel
  obtain ⟨defined, included, declared, resource⟩ := roles
  refine ⟨by decide +kernel, by decide +kernel, check_absolute {} "web.pp" "." fun i member => ?_⟩
  have listed : i = 1 ∨ i = 4 ∨ i = 7 ∨ i = 10 := by simpa using member
  rcases listed with rfl | rfl | rfl | rfl
  · exact ⟨.inl defined, by decide +kernel, by decide +kernel, by decide +kernel,
      by decide +kernel⟩
  · exact ⟨.inr (.inl ⟨3, included⟩), by decide +kernel, by decide +kernel, by decide +kernel,
      by decide +kernel⟩
  · exact ⟨.inr (.inr (.inl ⟨5, declared⟩)), by decide +kernel, by decide +kernel,
      by decide +kernel, by decide +kernel⟩
  · exact ⟨.inr (.inr (.inr resource)), by decide +kernel, by decide +kernel, by decide +kernel,
      by decide +kernel⟩

end Layering

end ManifestLint
