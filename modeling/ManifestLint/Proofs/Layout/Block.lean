import ManifestLint.Block.Index
import ManifestLint.Proofs.Layout.Statement

/-!
# Blocks and layout

Streams with the same code have the same blocks, one for one, up to alignment. The scan for nodes
walks over all tokens and the search for definitions follows links, but tokens of layout change the
state of neither.
-/
namespace ManifestLint

/-! ### Blocks over the same code -/

/-- Spans over the same code. The start need not be a code token, but as many of them lie before. -/
structure Span.Alike (s t : TokenStream) (a b : Span) : Prop where
  start : s.rank a.start = t.rank b.start
  stop : s.Aligned t a.stop b.stop

/-- Kinds of blocks that name the same code tokens. -/
inductive BlockKind.Alike (s t : TokenStream) : BlockKind → BlockKind → Prop
  | classDef {name name' : Nat} {params params' : Option Span} (named : s.Aligned t name name')
      (given : Option.Rel (Span.Alike s t) params params') :
      Alike s t (.classDef name params) (.classDef name' params')
  | definedType {name name' : Nat} {params params' : Option Span} (named : s.Aligned t name name')
      (given : Option.Rel (Span.Alike s t) params params') :
      Alike s t (.definedType name params) (.definedType name' params')
  | node {titles titles' : List Nat} (titled : List.Forall₂ (s.Aligned t) titles titles') :
      Alike s t (.node titles) (.node titles')

/-- Blocks over the same code. -/
structure Block.Alike (s t : TokenStream) (a b : Block) : Prop where
  start : s.Aligned t a.start b.start
  stop : s.Aligned t a.stop b.stop
  kind : BlockKind.Alike s t a.kind b.kind

/-- States of the scan for nodes that have seen the same code. -/
structure NodeScan.Alike (s t : TokenStream) (a b : NodeScan) : Prop where
  found : List.Forall₂ (Block.Alike s t) a.found b.found
  current : Option.Rel (fun one other : OpenNode =>
    s.Aligned t one.start other.start ∧ List.Forall₂ (s.Aligned t) one.titles other.titles ∧
      one.depth = other.depth) a.current b.current

namespace TokenStream

variable {s t : TokenStream} {i j : Nat}

/-! ### Passing over layout -/

theorem filter_filter_isCode {p : Nat → Bool} (layout : ∀ i, s.isCode i = false → p i = false)
    (positions : List Nat) : (positions.filter s.isCode).filter p = positions.filter p := by
  rw [List.filter_filter]
  apply List.filter_congr
  intro i _
  cases code : s.isCode i with
  | false => rw [layout i code]; rfl
  | true => rw [Bool.and_true]

theorem filterMap_filter_isCode {α : Type} {f : Nat → Option α}
    (layout : ∀ i, s.isCode i = false → f i = none) (positions : List Nat) :
    (positions.filter s.isCode).filterMap f = positions.filterMap f := by
  rw [List.filterMap_filter]
  apply List.filterMap_congr
  intro i _
  cases code : s.isCode i with
  | false => rw [layout i code]; rfl
  | true => rfl

section Walks

variable {xs ys : List Nat}
  (related : List.Forall₂ (Aligned s t) (xs.filter s.isCode) (ys.filter t.isCode))
include related

theorem filter_rel {p q : Nat → Bool} (layout : ∀ i, s.isCode i = false → p i = false)
    (layout' : ∀ j, t.isCode j = false → q j = false)
    (agree : ∀ i j, s.Aligned t i j → p i = q j) :
    List.Forall₂ (Aligned s t) (xs.filter p) (ys.filter q) := by
  rw [← filter_filter_isCode layout xs, ← filter_filter_isCode layout' ys]
  refine List.rel_filter (fun i j aligned => ?_) related
  show p i = true ↔ q j = true
  rw [agree i j aligned]

theorem filterMap_rel {α β : Type} {P : α → β → Prop} {f : Nat → Option α} {g : Nat → Option β}
    (layout : ∀ i, s.isCode i = false → f i = none)
    (layout' : ∀ j, t.isCode j = false → g j = none)
    (agree : ∀ i j, s.Aligned t i j → Option.Rel P (f i) (g j)) :
    List.Forall₂ P (xs.filterMap f) (ys.filterMap g) := by
  rw [← filterMap_filter_isCode layout xs, ← filterMap_filter_isCode layout' ys]
  exact List.rel_filterMap (fun i j aligned => agree i j aligned) related

end Walks

theorem scanNode_of_layout (scan : NodeScan) (layout : s.isCode i = false) :
    s.scanNode scan i = scan := by
  rw [scanNode, isKind_of_layout layout rfl, isKind_of_layout layout rfl,
    isKind_of_layout layout rfl]
  cases scan.current <;> rfl

theorem nodes_eq (s : TokenStream) :
    s.nodes = (s.codePositions.foldl s.scanNode ⟨[], none⟩).found.reverse := by
  -- Leaving out layout before the scan comes to passing over it during the scan.
  have passed : (fun scan i => if s.isCode i = true then s.scanNode scan i else scan) =
      s.scanNode := by
    funext scan i
    split
    · rfl
    next layout => rw [scanNode_of_layout scan (Bool.eq_false_iff.mpr layout)]
  rw [nodes, codePositions, List.foldl_filter, passed]

theorem balance?_filter_isCode {opener closer : TokenKind} (opens : opener.isFormatting = false)
    (closes : closer.isFormatting = false) (depth : Nat) (positions : List Nat) :
    s.balance? opener closer depth (positions.filter s.isCode) =
      s.balance? opener closer depth positions := by
  induction positions generalizing depth with
  | nil => rfl
  | cons i rest ih =>
    cases code : s.isCode i with
    | false =>
      rw [List.filter_cons_of_neg (by simp [code]), ih, balance?, isKind_of_layout code opens,
        isKind_of_layout code closes]
      rfl
    | true => rw [List.filter_cons_of_pos code, balance?, balance?, ih, ih, ih]

theorem definition?_of_layout (layout : s.isCode i = false) : s.definition? i = none := by
  rw [definition?, isKind_of_layout layout rfl, isKind_of_layout layout rfl]
  rfl

theorem definitions_eq (s : TokenStream) :
    s.definitions = s.codePositions.filterMap s.definition? :=
  (filterMap_filter_isCode (fun _ layout => definition?_of_layout layout) _).symm

namespace SameCode

variable (same : SameCode s t)
include same

/-! ### The code of spans and blocks -/

theorem forall₂_span {a b : Span} (alike : Span.Alike s t a b) :
    List.Forall₂ (Aligned s t) ((a.positions s).filter s.isCode)
      ((b.positions t).filter t.isCode) := by
  have inside := Nat.le_of_lt (lt_size_of_isCode alike.stop.left_isCode)
  have inside' := Nat.le_of_lt (lt_size_of_isCode alike.stop.right_isCode)
  rw [Span.positions, Span.positions, Nat.min_eq_left inside, Nat.min_eq_left inside']
  exact same.forall₂_between alike.start alike.stop.rank_eq inside inside'

theorem forall₂_block {a b : Block} (alike : Block.Alike s t a b) :
    List.Forall₂ (Aligned s t) ((a.positions s).filter s.isCode)
      ((b.positions t).filter t.isCode) := by
  have inside := lt_size_of_isCode alike.stop.left_isCode
  have inside' := lt_size_of_isCode alike.stop.right_isCode
  rw [Block.positions, Block.positions, Nat.min_eq_left inside, Nat.min_eq_left inside']
  exact same.forall₂_between alike.start.rank_eq alike.stop.rank_succ_eq inside inside'

/-! ### Nodes -/

theorem titlesBetween_rel {a b : Nat} (start : s.Aligned t a b) (stop : s.Aligned t i j) :
    List.Forall₂ (Aligned s t) (s.titlesBetween a i) (t.titlesBetween b j) := by
  exact filter_rel (same.forall₂_span ⟨start.rank_eq, stop⟩)
    (fun _ layout => isNodeTitle_of_layout layout) (fun _ layout => isNodeTitle_of_layout layout)
    (fun _ _ aligned => same.isNodeTitle_eq aligned)

/-- Aligned tokens keep scans alike. -/
theorem scanNode_alike (aligned : s.Aligned t i j) {a b : NodeScan}
    (alike : NodeScan.Alike s t a b) :
    NodeScan.Alike s t (s.scanNode a i) (t.scanNode b j) := by
  obtain ⟨found, current⟩ := a
  obtain ⟨found', current'⟩ := b
  obtain ⟨blocks, opened⟩ := alike
  simp only [scanNode, same.isKind_eq aligned]
  split
  · exact ⟨blocks, .some ⟨aligned, .nil, rfl⟩⟩
  cases opened with
  | none => exact ⟨blocks, .none⟩
  | @some one other pair =>
    obtain ⟨start, titles, depth⟩ := pair
    dsimp only
    rw [depth]
    split
    · -- The first brace fixes the titles, a later one keeps them.
      refine ⟨blocks, .some ⟨start, ?_, rfl⟩⟩
      dsimp only
      split
      · exact same.titlesBetween_rel start aligned
      · exact titles
    split
    · split
      · exact ⟨blocks, .some ⟨start, titles, depth⟩⟩
      split
      · exact ⟨.cons ⟨start, aligned, .node titles⟩ blocks, .none⟩
      · exact ⟨blocks, .some ⟨start, titles, rfl⟩⟩
    · exact ⟨blocks, .some ⟨start, titles, depth⟩⟩

theorem nodes_alike : List.Forall₂ (Block.Alike s t) s.nodes t.nodes := by
  have scans : NodeScan.Alike s t (s.codePositions.foldl s.scanNode ⟨[], none⟩)
      (t.codePositions.foldl t.scanNode ⟨[], none⟩) :=
    List.rel_foldl (R := Aligned s t) (P := NodeScan.Alike s t)
      (fun _ _ alike _ _ aligned => same.scanNode_alike aligned alike)
      ⟨.nil, .none⟩ same.forall₂_codePositions
  rw [nodes_eq, nodes_eq]
  exact List.rel_reverse scans.found

/-! ### Definitions -/

theorem balance?_rel (opener closer : TokenKind) (depth : Nat) {xs ys : List Nat}
    (related : List.Forall₂ (Aligned s t) xs ys) :
    Option.Rel (Aligned s t) (s.balance? opener closer depth xs)
      (t.balance? opener closer depth ys) := by
  induction related generalizing depth with
  | nil => exact .none
  | cons aligned _ ih =>
    rw [balance?, balance?, same.isKind_eq aligned, same.isKind_eq aligned]
    split
    · exact ih (depth + 1)
    split
    · split
      -- The depths are equal, so both walks stop here or neither does.
      · exact .some aligned
      · exact ih (depth - 1)
    · exact ih depth

theorem closing?_rel {opener closer : TokenKind} (opens : opener.isFormatting = false)
    (closes : closer.isFormatting = false) (aligned : s.Aligned t i j) :
    Option.Rel (Aligned s t) (s.closing? opener closer i) (t.closing? opener closer j) := by
  have related := same.balance?_rel opener closer 1 (same.forall₂_after aligned)
  rwa [balance?_filter_isCode opens closes, balance?_filter_isCode opens closes] at related

theorem parameterList?_rel (aligned : s.Aligned t i j) :
    Option.Rel (fun one other : Option Span × Nat =>
        Option.Rel (Span.Alike s t) one.1 other.1 ∧ s.Aligned t one.2 other.2)
      (s.parameterList? i) (t.parameterList? j) := by
  have link := same.next?_rel aligned
  rw [parameterList?, parameterList?]
  generalize s.next? i = opening, t.next? j = opening' at link
  cases link with
  | none => exact .some ⟨.none, aligned⟩
  | some opening =>
    dsimp only
    rw [same.isKind_eq opening]
    split
    · exact rel_optionMap (fun _ _ close => ⟨.some ⟨opening.rank_succ_eq, close⟩, close⟩)
        (same.closing?_rel rfl rfl opening)
    · exact .some ⟨.none, aligned⟩

theorem body_rel (aligned : s.Aligned t i j) :
    Option.Rel (Aligned s t) ((s.after i).find? (s.isKind · .lbrace))
      ((t.after j).find? (t.isKind · .lbrace)) := by
  rw [← List.head?_filter, ← List.head?_filter]
  exact rel_head? (filter_rel (same.forall₂_after aligned)
    (fun _ layout => isKind_of_layout layout rfl) (fun _ layout => isKind_of_layout layout rfl)
    (fun _ _ pair => same.isKind_eq pair .lbrace))

theorem definition?_rel (aligned : s.Aligned t i j) :
    Option.Rel (Block.Alike s t) (s.definition? i) (t.definition? j) := by
  rw [definition?, definition?, same.isKind_eq aligned .classKw, same.isKind_eq aligned .defineKw]
  refine rel_bind (fun _ _ _ => ?_) (rel_eq _)
  -- From here on every step starts at aligned tokens and leads to aligned tokens.
  refine rel_bind (fun name name' named => ?_) (same.next?_rel aligned)
  rw [same.isKind_eq named]
  refine rel_bind (fun _ _ _ => ?_) (rel_eq _)
  refine rel_bind (fun list list' listed => ?_) (same.parameterList?_rel named)
  obtain ⟨params, head⟩ := listed
  refine rel_bind (fun body body' opening => ?_) (same.body_rel head)
  refine rel_bind (fun stop stop' closing => ?_) (same.closing?_rel rfl rfl opening)
  refine .some ⟨aligned, closing, ?_⟩
  dsimp only
  split
  · exact .classDef named params
  · exact .definedType named params

theorem definitions_alike : List.Forall₂ (Block.Alike s t) s.definitions t.definitions := by
  rw [definitions_eq, definitions_eq]
  exact List.rel_filterMap (fun _ _ aligned => same.definition?_rel aligned)
    same.forall₂_codePositions

end SameCode

end TokenStream

end ManifestLint
