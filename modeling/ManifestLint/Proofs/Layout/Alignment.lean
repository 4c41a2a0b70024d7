import Mathlib.Data.List.Forall2
import ManifestLint.Proofs.Token.Links

/-!
# Streams with the same code

Two streams with the same code differ in layout only. Their code tokens are aligned by rank, which
is the number of code tokens before them. Aligned tokens look the same and have aligned neighbours,
and what lies between two aligned places is aligned piece by piece.
-/
namespace ManifestLint

/-- What the linter looks at in a token. -/
def Token.face (token : Token) : TokenKind × String × Nat × Nat :=
  (token.kind, token.text, token.line, token.column)

namespace TokenStream

/-- The code tokens of a stream as the linter looks at them. -/
def code (s : TokenStream) : List (TokenKind × String × Nat × Nat) :=
  (s.tokens.toList.filter fun token => !token.kind.isFormatting).map Token.face

/-- The positions of the code tokens of a stream. -/
def codePositions (s : TokenStream) : List Nat := (List.range s.size).filter s.isCode

/-- The number of code tokens before a position. -/
def rank (s : TokenStream) (i : Nat) : Nat := ((List.range i).filter s.isCode).length

/-- Two streams that differ in layout only. -/
def SameCode (s t : TokenStream) : Prop := s.code = t.code

instance (s t : TokenStream) : Decidable (SameCode s t) :=
  inferInstanceAs (Decidable (s.code = t.code))

/-- Two positions that hold the same code token, counted from the start of each stream. -/
def Aligned (s t : TokenStream) (i j : Nat) : Prop :=
  ∃ k : Nat, s.codePositions[k]? = some i ∧ t.codePositions[k]? = some j

variable {s t : TokenStream} {i j k : Nat}

/-! ### Ranks -/

theorem codePositions_nodup (s : TokenStream) : s.codePositions.Nodup :=
  List.nodup_range.filter _

theorem filter_range (inside : i ≤ s.size) :
    (List.range i).filter s.isCode = s.codePositions.take (s.rank i) := by
  have cut : s.size = i + (s.size - i) := by omega
  rw [codePositions, cut, List.range_add, List.filter_append, rank, List.take_left]

theorem filter_range' (start stop : Nat) :
    (List.range' start (stop - start)).filter s.isCode =
      ((List.range stop).filter s.isCode).drop (s.rank start) := by
  rcases Nat.le_total start stop with before | behind
  · have cut := List.range'_append_1 (s := 0) (m := start) (n := stop - start)
    rw [Nat.zero_add, Nat.add_sub_cancel' before, ← List.range_eq_range',
      ← List.range_eq_range'] at cut
    rw [← cut, List.filter_append, rank, List.drop_left]
  · -- Nothing lies between, and the rank exceeds what could be dropped.
    have cut : start = stop + (start - stop) := by omega
    have fewer : ((List.range stop).filter s.isCode).length ≤ s.rank start := by
      rw [rank, cut, List.range_add, List.filter_append, List.length_append]
      exact Nat.le_add_right _ _
    rw [Nat.sub_eq_zero_of_le behind, List.drop_eq_nil_of_le fewer]
    rfl

theorem rank_succ (code : s.isCode i = true) : s.rank (i + 1) = s.rank i + 1 := by
  rw [rank, rank, List.range_succ, List.filter_append, List.length_append]
  simp [code]

theorem isCode_of_getElem? (found : s.codePositions[k]? = some i) : s.isCode i = true :=
  (List.mem_filter.mp (List.mem_of_getElem? found)).2

theorem getElem?_rank (code : s.isCode i = true) : s.codePositions[s.rank i]? = some i := by
  have inside := lt_size_of_isCode code
  have last : (List.range (i + 1)).filter s.isCode = (List.range i).filter s.isCode ++ [i] := by
    rw [List.range_succ, List.filter_append]
    simp [code]
  -- Up to and including the position, it is the last code token.
  have shown : (s.codePositions.take (s.rank (i + 1)))[s.rank i]? = some i := by
    rw [← filter_range inside, last, rank, List.getElem?_concat_length]
  rw [rank_succ code] at shown
  rwa [List.getElem?_take_of_lt (Nat.lt_succ_self _)] at shown

/-- The code token that comes after `k` others has rank `k`. -/
theorem rank_of_getElem? (found : s.codePositions[k]? = some i) : s.rank i = k := by
  have again := getElem?_rank (isCode_of_getElem? found)
  have inside := (List.getElem?_eq_some_iff.mp again).1
  -- A position is listed once, so its two places in the list are one.
  exact (List.getElem?_inj inside s.codePositions_nodup).mp (again.trans found.symm)

/-! ### Aligned tokens -/

theorem aligned_iff :
    s.Aligned t i j ↔ s.isCode i = true ∧ t.isCode j = true ∧ s.rank i = t.rank j := by
  constructor
  · rintro ⟨k, left, right⟩
    exact ⟨isCode_of_getElem? left, isCode_of_getElem? right,
      (rank_of_getElem? left).trans (rank_of_getElem? right).symm⟩
  · rintro ⟨left, right, same⟩
    exact ⟨s.rank i, getElem?_rank left, same ▸ getElem?_rank right⟩

namespace Aligned

theorem left_isCode (aligned : s.Aligned t i j) : s.isCode i = true := (aligned_iff.mp aligned).1

theorem right_isCode (aligned : s.Aligned t i j) : t.isCode j = true :=
  (aligned_iff.mp aligned).2.1

theorem rank_eq (aligned : s.Aligned t i j) : s.rank i = t.rank j := (aligned_iff.mp aligned).2.2

theorem rank_succ_eq (aligned : s.Aligned t i j) : s.rank (i + 1) = t.rank (j + 1) := by
  rw [rank_succ aligned.left_isCode, rank_succ aligned.right_isCode, aligned.rank_eq]

/-- Alignment pairs each position with one other. -/
theorem biUnique (s t : TokenStream) : Relator.BiUnique (Aligned s t) := by
  constructor
  · rintro i i' j ⟨k, left, right⟩ ⟨l, left', right'⟩
    obtain rfl : k = l := (rank_of_getElem? right).symm.trans (rank_of_getElem? right')
    exact Option.some.inj (left.symm.trans left')
  · rintro i j j' ⟨k, left, right⟩ ⟨l, left', right'⟩
    obtain rfl : k = l := (rank_of_getElem? left).symm.trans (rank_of_getElem? left')
    exact Option.some.inj (right.symm.trans right')

end Aligned

/-! ### Streams with the same code -/

theorem map_token? (s : TokenStream) :
    (List.range s.size).map s.token? = s.tokens.toList.map some := by
  apply List.ext_getElem
  · simp [size]
  · intro i inside _
    have bound : i < s.tokens.size := by simpa [size] using inside
    simp [token?, bound]

/-- The code of a stream is what stands at its code positions. -/
theorem map_codePositions (s : TokenStream) :
    s.codePositions.map (fun i => (s.token? i).map Token.face) = s.code.map some := by
  have isCode_eq : s.isCode = fun i =>
      (s.token? i).any fun token => !token.kind.isFormatting := by
    funext i
    rw [isCode, kind?, Option.any_map]
  calc s.codePositions.map (fun i => (s.token? i).map Token.face)
    _ = (((List.range s.size).map s.token?).filter fun token? =>
          token?.any fun token => !token.kind.isFormatting).map (Option.map Token.face) := by
        rw [codePositions, isCode_eq, List.filter_map, List.map_map]
        rfl
    _ = s.code.map some := by
        rw [map_token?, List.filter_map, List.map_map, code, List.map_map]
        rfl

namespace SameCode

variable (same : SameCode s t)
include same

theorem length_eq : s.codePositions.length = t.codePositions.length := by
  have left := congrArg List.length s.map_codePositions
  have right := congrArg List.length t.map_codePositions
  rw [List.length_map, List.length_map] at left right
  rw [left, right, same]

theorem forall₂_codePositions : List.Forall₂ (Aligned s t) s.codePositions t.codePositions := by
  refine List.forall₂_iff_get.mpr ⟨same.length_eq, fun k left right => ⟨k, ?_, ?_⟩⟩
  · exact List.getElem?_eq_getElem left
  · exact List.getElem?_eq_getElem right

/-- Aligned tokens look the same. -/
theorem face_eq (aligned : s.Aligned t i j) :
    (s.token? i).map Token.face = (t.token? j).map Token.face := by
  obtain ⟨k, left, right⟩ := aligned
  -- Both tokens show the face of this rank in the common code.
  have faces := congrArg (fun faces => faces[k]?) (s.map_codePositions.trans (congrArg _ same))
  rw [← t.map_codePositions] at faces
  simpa [left, right] using faces

theorem exists_tokens (aligned : s.Aligned t i j) :
    ∃ one other, s.token? i = some one ∧ t.token? j = some other ∧ one.kind = other.kind ∧
      one.text = other.text ∧ one.line = other.line ∧ one.column = other.column := by
  have faces := same.face_eq aligned
  have inside := lt_size_of_isCode aligned.left_isCode
  have inside' := lt_size_of_isCode aligned.right_isCode
  have here : s.token? i = some s.tokens[i] := Array.getElem?_eq_getElem inside
  have here' : t.token? j = some t.tokens[j] := Array.getElem?_eq_getElem inside'
  rw [here, here'] at faces
  simp only [Option.map_some, Option.some.injEq, Token.face, Prod.mk.injEq] at faces
  exact ⟨_, _, here, here', faces⟩

theorem kind?_eq (aligned : s.Aligned t i j) : s.kind? i = t.kind? j := by
  have faces := congrArg (Option.map Prod.fst) (same.face_eq aligned)
  rwa [Option.map_map, Option.map_map] at faces

theorem isKind_eq (aligned : s.Aligned t i j) (kind : TokenKind) :
    s.isKind i kind = t.isKind j kind := by
  rw [isKind, isKind, same.kind?_eq aligned]

theorem text_eq (aligned : s.Aligned t i j) : s.text i = t.text j := by
  have faces := congrArg (Option.map fun face => face.2.1) (same.face_eq aligned)
  rw [Option.map_map, Option.map_map] at faces
  exact congrArg (fun text : Option String => text.getD "") faces

/-- What lies between places of the same rank is aligned. -/
theorem forall₂_between {a b a' b' : Nat} (start : s.rank a = t.rank a')
    (stop : s.rank b = t.rank b') (inside : b ≤ s.size) (inside' : b' ≤ t.size) :
    List.Forall₂ (Aligned s t) ((List.range' a (b - a)).filter s.isCode)
      ((List.range' a' (b' - a')).filter t.isCode) := by
  rw [filter_range', filter_range', filter_range inside, filter_range inside', start, stop]
  exact List.forall₂_drop _ (List.forall₂_take _ same.forall₂_codePositions)

theorem forall₂_before (aligned : s.Aligned t i j) :
    List.Forall₂ (Aligned s t) ((List.range i).filter s.isCode)
      ((List.range j).filter t.isCode) := by
  have inside := lt_size_of_isCode aligned.left_isCode
  have inside' := lt_size_of_isCode aligned.right_isCode
  rw [filter_range (Nat.le_of_lt inside), filter_range (Nat.le_of_lt inside'), aligned.rank_eq]
  exact List.forall₂_take _ same.forall₂_codePositions

theorem forall₂_after (aligned : s.Aligned t i j) :
    List.Forall₂ (Aligned s t) ((s.after i).filter s.isCode) ((t.after j).filter t.isCode) :=
  -- The ends of the streams have the same rank, which is the number of code tokens.
  same.forall₂_between aligned.rank_succ_eq same.length_eq (Nat.le_refl _) (Nat.le_refl _)

end SameCode

end TokenStream

end ManifestLint
