import ManifestLint.Proofs.Block.Node

/-!
# The definitions of a stream

A class or a defined type is told by its tokens alone: a keyword, the name that is its next code
token, a parameter list if a parenthesis opens right behind the name, the first opening brace behind
all this, and the brace that closes what that one opens. Braces inside the parameter list belong to
it, and a list or a body that is never closed makes no definition.

Each of the searches that find a definition is an iff with one of these conditions, and the whole is
put together from them (`definition?_eq_some_iff`).
-/
namespace ManifestLint.TokenStream

/-- What stands behind the name of a definition, up to the end of its head: nothing, or a parameter
list that is closed. -/
inductive HeadAt (s : TokenStream) (name : Nat) : Option Span → Nat → Prop where
  | bare (other : ∀ next, s.CodeAfter name next → s.isKind next .lparen = false) :
    HeadAt s name none name
  | listed {opening close : Nat} (next : s.CodeAfter name opening)
    (opens : s.isKind opening .lparen = true)
    (closes : s.ClosedAt .lparen .rparen opening close) :
    HeadAt s name (some ⟨opening + 1, close⟩) close

/-- A class or a defined type with its name, its parameters, the end of its head and the opening
brace of its body. -/
structure IsDefinition (s : TokenStream) (b : Block) (name : Nat) (params : Option Span)
    (head body : Nat) : Prop where
  kind : s.isKind b.start .classKw = true ∧ b.kind = .classDef name params ∨
    s.isKind b.start .defineKw = true ∧ b.kind = .definedType name params
  next : s.CodeAfter b.start name
  named : s.isKind name .name = true
  heads : s.HeadAt name params head
  opens : s.BodyAt head body
  closes : s.ClosedAt .lbrace .rbrace body b.stop

variable {s : TokenStream}

/-! ### The parts of a definition -/

theorem parameterList?_eq_some_iff {name head : Nat} {params : Option Span} :
    s.parameterList? name = some (params, head) ↔ s.HeadAt name params head := by
  rw [parameterList?]
  constructor
  · intro found
    split at found
    next opening link =>
      have next := next?_eq_some_iff.mp link
      split at found
      next opens =>
        obtain ⟨close, closing, made⟩ := Option.map_eq_some_iff.mp found
        cases made
        exact .listed next opens ((closing?_eq_some_iff opens (by decide)).mp closing)
      next other =>
        cases found
        refine .bare fun opening' next' => ?_
        rw [next'.unique next]
        exact Bool.eq_false_iff.mpr other
    next link =>
      -- The name is the last code token, so nothing can open a list.
      cases found
      refine .bare fun opening next => ?_
      rw [next?_eq_some_iff.mpr next] at link
      cases link
  · rintro (other | ⟨next, opens, closes⟩)
    · split
      next opening link =>
        rw [other opening (next?_eq_some_iff.mp link), if_neg Bool.false_ne_true]
      · rfl
    · rw [next?_eq_some_iff.mpr next]
      dsimp only
      rw [if_pos opens, (closing?_eq_some_iff opens (by decide)).mpr closes, Option.map_some]

theorem find?_lbrace_eq_some_iff {head body : Nat} :
    (s.after head).find? (s.isKind · .lbrace) = some body ↔ s.BodyAt head body :=
  find?_after_eq_some_iff fun _ => lt_size_of_isKind

theorem definition?_eq_some_iff {i : Nat} {b : Block} :
    s.definition? i = some b ↔
      b.start = i ∧ ∃ name params head body, s.IsDefinition b name params head body := by
  simp only [definition?, Option.bind_eq_bind, Option.bind_eq_some_iff, Option.guard_eq_some',
    next?_eq_some_iff, find?_lbrace_eq_some_iff, Prod.exists, parameterList?_eq_some_iff]
  -- Both sides now list the same parts; what is left is the closing brace and the keyword.
  constructor
  · rintro ⟨-, keyword, name, next, -, named, params, head, heads, body, opens, stop, closing, made⟩
    cases made
    refine ⟨rfl, name, params, head, body, ?_, next, named, heads, opens, ?_⟩
    · rcases Bool.or_eq_true_iff.mp keyword with isClass | isDefine
      · exact .inl ⟨isClass, if_pos isClass⟩
      · exact .inr ⟨isDefine, by rw [isKind_eq_false isDefine (by decide)]; rfl⟩
    · exact (closing?_eq_some_iff opens.1.2 (by decide)).mp closing
  · rintro ⟨rfl, name, params, head, body, kind, next, named, heads, opens, closes⟩
    have closing := (closing?_eq_some_iff opens.1.2 (by decide)).mpr closes
    refine ⟨(), ?_, name, next, (), named, params, head, heads, body, opens, b.stop, closing, ?_⟩
    · rcases kind with ⟨isClass, -⟩ | ⟨isDefine, -⟩
      · rw [isClass, Bool.true_or]
      · rw [isDefine, Bool.or_true]
    · obtain ⟨start, stop, made⟩ := b
      rcases kind with ⟨isClass, rfl⟩ | ⟨isDefine, rfl⟩
      · rw [if_pos isClass]
      · rw [isKind_eq_false isDefine (by decide), if_neg Bool.false_ne_true]

/-! ### Where the parts stand -/

theorem HeadAt.bounds {name head : Nat} {params : Option Span} (heads : s.HeadAt name params head) :
    name ≤ head ∧ ∀ span, params = some span →
      name < span.start ∧ span.start ≤ span.stop ∧ span.stop ≤ head := by
  cases heads with
  | bare => exact ⟨Nat.le_refl name, fun _ given => by cases given⟩
  | listed next opens closes =>
    have behind := next.1.1
    have inside := (closes.exists_unclosed opens (by decide)).1
    refine ⟨by omega, fun span given => ?_⟩
    cases given
    exact ⟨by dsimp only; omega, inside, Nat.le_refl _⟩

namespace IsDefinition

variable {b : Block} {name head body : Nat} {params : Option Span}

theorem kind_parts (isDefinition : s.IsDefinition b name params head body) :
    b.kind.name? = some name ∧ b.kind.params? = params ∧ b.kind.titles = [] ∧
      b.kind.isNode = false := by
  rcases isDefinition.kind with ⟨-, kind⟩ | ⟨-, kind⟩
  all_goals
    rw [kind]
    exact ⟨rfl, rfl, rfl, rfl⟩

/-- Keyword, name, head, body and closing brace, one behind the other. -/
theorem bounds (isDefinition : s.IsDefinition b name params head body) :
    b.start < name ∧ name ≤ head ∧ head < body ∧ body < b.stop :=
  ⟨isDefinition.next.1.1, isDefinition.heads.bounds.1, isDefinition.opens.1.1,
    (isDefinition.closes.exists_unclosed isDefinition.opens.1.2 (by decide)).1⟩

theorem brace (isDefinition : s.IsDefinition b name params head body) :
    s.isKind b.stop .rbrace = true :=
  isDefinition.closes.isKind isDefinition.opens.1.2 (by decide)

end IsDefinition

/-! ### All definitions -/

theorem mem_definitions_iff {b : Block} :
    b ∈ s.definitions ↔ ∃ name params head body, s.IsDefinition b name params head body := by
  simp only [definitions, List.mem_filterMap, definition?_eq_some_iff, List.mem_range]
  constructor
  · rintro ⟨i, -, -, found⟩
    exact found
  · rintro ⟨name, params, head, body, isDefinition⟩
    have before := isDefinition.bounds
    have inside := lt_size_of_isKind isDefinition.brace
    exact ⟨b.start, by omega, rfl, name, params, head, body, isDefinition⟩

theorem definitions_increasing (s : TokenStream) :
    s.definitions.Pairwise fun earlier later => earlier.start < later.start := by
  refine List.pairwise_filterMap.mpr (List.pairwise_lt_range.imp fun {i j} less => ?_)
  intro earlier found later found'
  rw [(definition?_eq_some_iff.mp found).1, (definition?_eq_some_iff.mp found').1]
  exact less

/-- The definitions that are found are those of the stream, each once and in the order of their
keywords, and a search for a closing token never takes anything from a depth of zero. -/
theorem definitions_found_exactly (s : TokenStream) :
    (∀ b, b ∈ s.definitions ↔
        ∃ name params head body, s.IsDefinition b name params head body) ∧
      (s.definitions.Pairwise fun earlier later => earlier.start < later.start) ∧
      ∀ opener closer start, s.isKind start opener = true →
        s.checkedBalance? opener closer 0 (start :: s.after start) =
          some (s.closing? opener closer start) :=
  ⟨fun _ => mem_definitions_iff, s.definitions_increasing,
    fun _ _ _ => checkedBalance?_of_opener⟩

/-- A class with braces and parentheses in its parameter list, and a defined type whose list stays
open. -/
def bracedParameters : TokenStream :=
  .ofList ([.classKw, .whitespace, .name, .lparen, .lbrace, .lparen, .rparen, .rbrace, .rparen,
    .inheritsKw, .name, .lbrace, .lbrace, .rbrace, .rbrace, .defineKw, .name, .lparen, .lbrace,
    .rbrace].map (.new · "" 1 1))

theorem definitions_found_exactly_of_bracedParameters :
    bracedParameters.definitions = [⟨0, 14, .classDef 2 (some ⟨4, 8⟩)⟩] ∧
      (∃ name params head body,
        bracedParameters.IsDefinition ⟨0, 14, .classDef 2 (some ⟨4, 8⟩)⟩ name params head body) ∧
      (bracedParameters.isKind 17 .lparen = true ∧
        bracedParameters.checkedBalance? .lparen .rparen 0 (17 :: bracedParameters.after 17) =
          some none) := by
  have found : bracedParameters.definitions = [⟨0, 14, .classDef 2 (some ⟨4, 8⟩)⟩] := by decide
  have opens : bracedParameters.isKind 17 .lparen = true := by decide
  have open' : bracedParameters.closing? .lparen .rparen 17 = none := by decide
  have exactly := definitions_found_exactly bracedParameters
  refine ⟨found, (exactly.1 _).mp (by rw [found]; exact List.mem_singleton_self _), opens, ?_⟩
  rw [exactly.2.2 .lparen .rparen 17 opens, open']

end ManifestLint.TokenStream
