import Mathlib.Data.List.Find
import ManifestLint.Proofs.Block.Extent
import ManifestLint.Proofs.Layering.Ordinary

/-!
# A block cut out of its stream

The tokens of a block make a stream of their own, in which the block starts at zero. Looking ahead
from a token before the closing brace never leads past that brace, which is a code token, and
looking back from a token behind the keyword never leads before the keyword. So every token means
within the cut what it means within the whole stream.
-/
namespace ManifestLint

/-- A search that succeeds among the first positions, which are those of a list moved up. -/
theorem find?_moved_append {k x : Nat} {xs rest : List Nat} {p q : Nat → Bool} (member : x ∈ xs)
    (holds : p (k + x) = true) (agree : ∀ i ∈ xs, p (k + i) = q i) :
    (xs.map (k + ·) ++ rest).find? p = (xs.find? q).map (k + ·) := by
  have found : ((xs.map (k + ·)).find? p).isSome = true := by
    rw [List.find?_isSome]
    exact ⟨k + x, List.mem_map.mpr ⟨x, member, rfl⟩, holds⟩
  rw [List.find?_append, Option.or_of_isSome found, List.find?_map]
  congr 1
  exact List.find?_congr agree

/-- A span with all positions moved down. -/
def Span.rebased (start : Nat) (span : Span) : Span := ⟨span.start - start, span.stop - start⟩

/-- What a block declares, with all positions moved down. -/
def BlockKind.rebased (start : Nat) : BlockKind → BlockKind
  | .classDef name params => .classDef (name - start) (params.map (Span.rebased start))
  | .definedType name params => .definedType (name - start) (params.map (Span.rebased start))
  | .node titles => .node (titles.map (· - start))

namespace Block

/-- The stream of the tokens of a block alone. -/
def alone (b : Block) (s : TokenStream) : TokenStream :=
  .ofTokens (s.tokens.extract b.start (b.stop + 1))

/-- A block with all positions moved down by its start. -/
def rebased (b : Block) : Block := ⟨b.start - b.start, b.stop - b.start, b.kind.rebased b.start⟩

namespace Framed

variable {s : TokenStream} {b : Block} (framed : b.Framed s) {j : Nat}
include framed

/-! ### Tokens -/

theorem stop_lt_size : b.stop < s.size := TokenStream.lt_size_of_isKind framed.closes

theorem size_alone : (b.alone s).size = b.stop + 1 - b.start := by
  have inside : b.stop < s.tokens.size := framed.stop_lt_size
  rw [alone, TokenStream.size, TokenStream.tokens_ofTokens, Array.size_extract,
    Nat.min_eq_left inside]

theorem le_stop_of_lt_size (inside : j < (b.alone s).size) : b.start + j ≤ b.stop := by
  have ordered := framed.ordered
  rw [framed.size_alone] at inside
  omega

theorem token?_alone (within : b.start + j ≤ b.stop) :
    (b.alone s).token? j = s.token? (b.start + j) := by
  have inside : b.stop < s.tokens.size := framed.stop_lt_size
  have ordered := framed.ordered
  rw [alone, TokenStream.token?, TokenStream.tokens_ofTokens, Array.getElem?_extract,
    Nat.min_eq_left inside, if_pos (by omega)]
  rfl

theorem kind?_alone (within : b.start + j ≤ b.stop) :
    s.kind? (b.start + j) = (b.alone s).kind? j := by
  rw [TokenStream.kind?, TokenStream.kind?, framed.token?_alone within]

theorem isKind_alone (within : b.start + j ≤ b.stop) (kind : TokenKind) :
    s.isKind (b.start + j) kind = (b.alone s).isKind j kind := by
  rw [TokenStream.isKind, TokenStream.isKind, framed.kind?_alone within]

theorem isCode_alone (within : b.start + j ≤ b.stop) :
    s.isCode (b.start + j) = (b.alone s).isCode j := by
  rw [TokenStream.isCode, TokenStream.isCode, framed.kind?_alone within]

theorem text_alone (within : b.start + j ≤ b.stop) :
    s.text (b.start + j) = (b.alone s).text j := by
  rw [TokenStream.text, TokenStream.text, framed.token?_alone within]

/-! ### Links -/

/-- The closing brace is met before anything behind the block. -/
theorem next?_alone (before : b.start + j < b.stop) :
    s.next? (b.start + j) = ((b.alone s).next? j).map (b.start + ·) := by
  have inside := framed.stop_lt_size
  have size := framed.size_alone
  -- The positions behind the token are those of the cut, and then those behind the block.
  have cut : s.after (b.start + j) = ((b.alone s).after j).map (b.start + ·) ++
      List.range' (b.stop + 1) (s.size - (b.stop + 1)) := by
    have count : s.size - (b.start + j + 1) =
        ((b.alone s).size - (j + 1)) + (s.size - (b.stop + 1)) := by omega
    have behind : b.stop + 1 = b.start + (j + 1) + ((b.alone s).size - (j + 1)) := by omega
    rw [TokenStream.after, TokenStream.after, List.map_add_range', count, behind,
      ← Nat.add_assoc b.start j 1, List.range'_append_1]
  have place : b.start + (b.stop - b.start) = b.stop := by omega
  rw [TokenStream.next?_eq, TokenStream.next?_eq, cut]
  refine find?_moved_append (x := b.stop - b.start) ?_ ?_ fun i member => ?_
  · rw [TokenStream.after, List.mem_range'_1]
    omega
  · rw [place]
    exact TokenStream.isCode_of_isKind rfl framed.closes
  · rw [TokenStream.after, List.mem_range'_1] at member
    exact framed.isCode_alone (by omega)

/-- The keyword is met before anything in front of the block. -/
theorem prev?_alone (behind : 0 < j) (within : b.start + j ≤ b.stop) :
    s.prev? (b.start + j) = ((b.alone s).prev? j).map (b.start + ·) := by
  have inside := framed.stop_lt_size
  have size := framed.size_alone
  have cut : (List.range (b.start + j)).reverse =
      (List.range j).reverse.map (b.start + ·) ++ (List.range b.start).reverse := by
    rw [List.range_add, List.reverse_append, List.map_reverse]
  rw [TokenStream.prev?_eq (by omega), TokenStream.prev?_eq (by omega), cut]
  refine find?_moved_append (x := 0) ?_ ?_ fun i member => ?_
  · rw [List.mem_reverse, List.mem_range]
    exact behind
  · rcases framed.opens with keyword | keyword | keyword <;>
      exact TokenStream.isCode_of_isKind rfl keyword
  · rw [List.mem_reverse, List.mem_range] at member
    exact framed.isCode_alone (by omega)

theorem nextIs_alone (before : b.start + j < b.stop) (kind : TokenKind) :
    s.nextIs (b.start + j) kind = (b.alone s).nextIs j kind := by
  rw [TokenStream.nextIs, TokenStream.nextIs, framed.next?_alone before, Option.any_map]
  cases link : (b.alone s).next? j with
  | none => rfl
  | some next =>
    exact framed.isKind_alone (framed.le_stop_of_lt_size (TokenStream.next?_lt_size link)) kind

theorem prevIs_alone (behind : 0 < j) (within : b.start + j ≤ b.stop) (kind : TokenKind) :
    s.prevIs (b.start + j) kind = (b.alone s).prevIs j kind := by
  have inside : j < (b.alone s).size := by rw [framed.size_alone]; omega
  rw [TokenStream.prevIs, TokenStream.prevIs, framed.prev?_alone behind within, Option.any_map]
  cases link : (b.alone s).prev? j with
  | none => rfl
  | some before =>
    rw [TokenStream.prev?_eq inside] at link
    have code := List.find?_some link
    exact framed.isKind_alone (framed.le_stop_of_lt_size (TokenStream.lt_size_of_isCode code)) kind

/-! ### Statements -/

/-- The last token of a block is a brace and nothing else. -/
theorem lt_stop_of_isKind (within : b.start + j ≤ b.stop) {kind : TokenKind}
    (holds : (b.alone s).isKind j kind = true) (other : kind ≠ .rbrace) :
    b.start + j < b.stop := by
  rcases Nat.lt_or_eq_of_le within with before | last
  · exact before
  · rw [← framed.isKind_alone within, last, TokenStream.isKind, beq_iff_eq] at holds
    have closes := beq_iff_eq.mp framed.closes
    rw [holds] at closes
    exact absurd (Option.some.inj closes) other

/-- The first token of a block is a keyword, so a name stands behind it. -/
theorem pos_of_isKind_name (holds : (b.alone s).isKind j .name = true) : 0 < j := by
  rcases Nat.eq_zero_or_pos j with rfl | behind
  · have within : b.start + 0 ≤ b.stop := Nat.le_of_lt framed.ordered
    rw [← framed.isKind_alone within, TokenStream.isKind, beq_iff_eq, Nat.add_zero] at holds
    rcases framed.opens with keyword | keyword | keyword <;>
      simp [TokenStream.isKind, holds] at keyword
  · exact behind

theorem isFunctionCall_alone (within : b.start + j ≤ b.stop) :
    s.isFunctionCall (b.start + j) = (b.alone s).isFunctionCall j := by
  rw [TokenStream.isFunctionCall, TokenStream.isFunctionCall, framed.isKind_alone within,
    framed.isKind_alone within]
  cases named : (b.alone s).isKind j .name || (b.alone s).isKind j .functionName with
  | false => rfl
  | true =>
    -- A name is not the closing brace, so what follows it is in the block.
    have before : b.start + j < b.stop := by
      rcases Bool.or_eq_true_iff.mp named with holds | holds
      · exact framed.lt_stop_of_isKind within holds (by decide)
      · exact framed.lt_stop_of_isKind within holds (by decide)
    rw [framed.nextIs_alone before]

theorem isLookup_alone (within : b.start + j ≤ b.stop) :
    s.isLookup (b.start + j) = (b.alone s).isLookup j := by
  rw [TokenStream.isLookup, TokenStream.isLookup, framed.isFunctionCall_alone within,
    framed.text_alone within]

theorem isLegacyLookup_alone (within : b.start + j ≤ b.stop) :
    s.isLegacyLookup (b.start + j) = (b.alone s).isLegacyLookup j := by
  rw [TokenStream.isLegacyLookup, TokenStream.isLegacyLookup, framed.isFunctionCall_alone within,
    framed.text_alone within]

theorem isLegacyValidate_alone (within : b.start + j ≤ b.stop) :
    s.isLegacyValidate (b.start + j) = (b.alone s).isLegacyValidate j := by
  rw [TokenStream.isLegacyValidate, TokenStream.isLegacyValidate,
    framed.isFunctionCall_alone within, framed.text_alone within]

/-- Behind a token of a kind that no last token has, two steps ahead stay in the block as well. -/
theorem next?_next?_alone (before : b.start + j < b.stop) {kind : TokenKind}
    (follows : (b.alone s).nextIs j kind = true) (other : kind ≠ .rbrace) :
    (s.next? (b.start + j)).bind s.next? =
      (((b.alone s).next? j).bind (b.alone s).next?).map (b.start + ·) := by
  rw [framed.next?_alone before]
  rw [TokenStream.nextIs] at follows
  cases link : (b.alone s).next? j with
  | none => rfl
  | some next =>
    rw [link, Option.any_some] at follows
    have within := framed.le_stop_of_lt_size (TokenStream.next?_lt_size link)
    exact framed.next?_alone (framed.lt_stop_of_isKind within follows other)

theorem includedClass?_alone (within : b.start + j ≤ b.stop) :
    s.includedClass? (b.start + j) = ((b.alone s).includedClass? j).map (b.start + ·) := by
  rw [TokenStream.includedClass?, TokenStream.includedClass?, TokenStream.isInclude,
    TokenStream.isInclude, framed.isKind_alone within, framed.text_alone within]
  cases named : (b.alone s).isKind j .name with
  | false => rfl
  | true =>
    have before := framed.lt_stop_of_isKind within named (by decide)
    rw [framed.next?_alone before]
    cases link : (b.alone s).next? j with
    | none => simp
    | some next =>
      have inside := framed.le_stop_of_lt_size (TokenStream.next?_lt_size link)
      simp only [Option.map_some, Option.any_some, Option.bind_some, framed.isKind_alone inside]
      split
      · split
        -- A parenthesis is no closing brace, so the class behind it is in the block.
        next paren => exact framed.next?_alone (framed.lt_stop_of_isKind inside paren (by decide))
        · rfl
      · rfl

theorem declaredClass?_alone (within : b.start + j ≤ b.stop) :
    s.declaredClass? (b.start + j) = ((b.alone s).declaredClass? j).map (b.start + ·) := by
  rw [TokenStream.declaredClass?, TokenStream.declaredClass?, framed.isKind_alone within]
  cases keyword : (b.alone s).isKind j .classKw with
  | false => rfl
  | true =>
    have before := framed.lt_stop_of_isKind within keyword (by decide)
    rw [framed.nextIs_alone before, Bool.true_and]
    split
    next follows => exact framed.next?_next?_alone before follows (by decide)
    · rfl

theorem isResourceType_alone (within : b.start + j ≤ b.stop) :
    s.isResourceType (b.start + j) = (b.alone s).isResourceType j := by
  rw [TokenStream.isResourceType, TokenStream.isResourceType, framed.isKind_alone within]
  cases named : (b.alone s).isKind j .name with
  | false => rfl
  | true =>
    -- A name is neither the keyword nor the closing brace, so both neighbours are in the block.
    have before := framed.lt_stop_of_isKind within named (by decide)
    have behind := framed.pos_of_isKind_name named
    simp only [framed.nextIs_alone before, framed.prevIs_alone behind within]

end Framed

end Block

end ManifestLint
