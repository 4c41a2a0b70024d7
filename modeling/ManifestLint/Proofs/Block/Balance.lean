import ManifestLint.Proofs.Token.Links

/-!
# Tokens that close what others open

From an opening token on, opening and closing tokens are counted. What it opens is closed at the
first position where both numbers are equal. A scan that keeps the difference of the two as its
depth has not come to that position as long as the depth stays positive. So the search for a closing
token ends at that position, and it never takes anything from a depth of zero.
-/
namespace ManifestLint.TokenStream

variable (s : TokenStream)

/-- The number of tokens of a kind from one position up to, but not including, another. -/
def countKind (kind : TokenKind) (start stop : Nat) : Nat :=
  (List.range' start (stop - start)).countP (s.isKind · kind)

/-- What is opened at one position is closed at another: it is the first one from there on with as
many closing as opening tokens up to it, itself included. -/
def ClosedAt (opener closer : TokenKind) (start stop : Nat) : Prop :=
  IsLeast {j | start ≤ j ∧
    s.countKind opener start (j + 1) = s.countKind closer start (j + 1)} stop

/-- What is opened at one position is not closed before another, where a number of tokens is open.
-/
structure Unclosed (opener closer : TokenKind) (start count depth : Nat) : Prop where
  depth_eq : s.countKind opener start count = s.countKind closer start count + depth
  unequal : ∀ j, start ≤ j → j < count →
    s.countKind opener start (j + 1) ≠ s.countKind closer start (j + 1)

/-- The search for a closing token with a counter that is checked: none where a closing token would
take the depth below zero. -/
def checkedBalance? (opener closer : TokenKind) : Nat → List Nat → Option (Option Nat)
  | _, [] => some none
  | depth, i :: rest =>
    if s.isKind i opener then checkedBalance? opener closer (depth + 1) rest
    else if s.isKind i closer then
      if depth = 0 then none
      else if depth = 1 then some (some i)
      else checkedBalance? opener closer (depth - 1) rest
    else checkedBalance? opener closer depth rest

variable {s} {opener closer : TokenKind} {start stop count depth : Nat}

theorem countKind_self (kind : TokenKind) (start : Nat) : s.countKind kind start start = 0 := by
  simp [countKind]

theorem countKind_succ (kind : TokenKind) (le : start ≤ stop) :
    s.countKind kind start (stop + 1) =
      s.countKind kind start stop + if s.isKind stop kind = true then 1 else 0 := by
  have length : stop + 1 - start = stop - start + 1 := by omega
  have last : start + 1 * (stop - start) = stop := by omega
  rw [countKind, length, List.range'_concat, List.countP_append, last, List.countP_singleton]
  rfl

/-! ### Going on with a scan -/

theorem Unclosed.opened (opens : s.isKind start opener = true) (differ : opener ≠ closer) :
    s.Unclosed opener closer start (start + 1) 1 := by
  have counts : s.countKind opener start (start + 1) =
      s.countKind closer start (start + 1) + 1 := by
    simp [countKind_succ, countKind_self, opens, isKind_eq_false opens differ]
  refine ⟨counts, fun j behind before => ?_⟩
  obtain rfl : j = start := by omega
  omega

theorem Unclosed.step (unclosed : s.Unclosed opener closer start count depth) (le : start ≤ count)
    {deeper : Nat} (positive : deeper ≠ 0)
    (moves : deeper + (if s.isKind count closer = true then 1 else 0) =
      depth + if s.isKind count opener = true then 1 else 0) :
    s.Unclosed opener closer start (count + 1) deeper := by
  have counts : s.countKind opener start (count + 1) =
      s.countKind closer start (count + 1) + deeper := by
    rw [countKind_succ _ le, countKind_succ _ le, unclosed.depth_eq]
    omega
  refine ⟨counts, fun j behind before => ?_⟩
  by_cases here : j = count
  · subst here
    omega
  · exact unclosed.unequal j behind (by omega)

theorem Unclosed.closedAt (unclosed : s.Unclosed opener closer start count 1) (le : start ≤ count)
    (closes : s.isKind count closer = true) (differ : opener ≠ closer) :
    s.ClosedAt opener closer start count := by
  have still : s.isKind count opener = false := isKind_eq_false closes (Ne.symm differ)
  constructor
  · refine ⟨le, ?_⟩
    rw [countKind_succ _ le, countKind_succ _ le, unclosed.depth_eq]
    simp [closes, still]
  · rintro j ⟨behind, equal⟩
    refine Nat.le_of_not_lt fun before => ?_
    exact unclosed.unequal j behind before equal

/-! ### Where something is closed -/

theorem ClosedAt.le_of_unclosed (closed : s.ClosedAt opener closer start stop)
    (unclosed : s.Unclosed opener closer start count depth) : count ≤ stop :=
  Nat.le_of_not_lt fun before => unclosed.unequal stop closed.1.1 before closed.1.2

theorem ClosedAt.exists_unclosed (closed : s.ClosedAt opener closer start stop)
    (opens : s.isKind start opener = true) (differ : opener ≠ closer) :
    start < stop ∧ ∃ depth, depth ≠ 0 ∧ s.Unclosed opener closer start stop depth := by
  have first := Unclosed.opened opens differ
  have behind : start + 1 ≤ stop := closed.le_of_unclosed first
  refine ⟨behind, ?_⟩
  -- Before the end the numbers differ, so the depth, once positive, stays so.
  have each : ∀ count, start + 1 ≤ count → count ≤ stop →
      ∃ depth, depth ≠ 0 ∧ s.Unclosed opener closer start count depth := by
    intro count le
    induction count, le using Nat.le_induction with
    | base => exact fun _ => ⟨1, by omega, first⟩
    | succ count le ih =>
      intro before
      obtain ⟨depth, positive, unclosed⟩ := ih (by omega)
      have unequal : ¬ (start ≤ count ∧ s.countKind opener start (count + 1) =
          s.countKind closer start (count + 1)) := fun equal => by
        have least := closed.2 equal
        omega
      rw [countKind_succ _ (by omega), countKind_succ _ (by omega), unclosed.depth_eq] at unequal
      -- A token changes the depth by one at most, and never to zero here.
      have falls : (if s.isKind count closer = true then 1 else 0) ≤ 1 := by split <;> omega
      refine ⟨depth + (if s.isKind count opener = true then 1 else 0) -
        (if s.isKind count closer = true then 1 else 0), ?_, unclosed.step (by omega) ?_ ?_⟩
      all_goals omega
  exact each stop behind (Nat.le_refl stop)

theorem ClosedAt.isKind (closed : s.ClosedAt opener closer start stop)
    (opens : s.isKind start opener = true) (differ : opener ≠ closer) :
    s.isKind stop closer = true := by
  obtain ⟨behind, depth, positive, unclosed⟩ := closed.exists_unclosed opens differ
  have equal := closed.1.2
  rw [countKind_succ _ (by omega), countKind_succ _ (by omega), unclosed.depth_eq] at equal
  refine Decidable.byContradiction fun other => ?_
  rw [if_neg other] at equal
  omega

/-! ### The search for a closing token -/

theorem balance?_eq_some_iff (opens : s.isKind start opener = true) (differ : opener ≠ closer)
    {length : Nat} (left : s.size - count = length) (le : start ≤ count) (positive : depth ≠ 0)
    (unclosed : s.Unclosed opener closer start count depth) :
    s.balance? opener closer depth (List.range' count length) = some stop ↔
      s.ClosedAt opener closer start stop := by
  -- Induction on the positions left; the depth is that of the tokens still open, and positive.
  induction length generalizing count depth with
  | zero =>
    constructor
    · intro found
      cases found
    · -- The token that closes would be one of the stream, and all of these have been passed.
      intro closed
      have inside := lt_size_of_isKind (closed.isKind opens differ)
      have later := closed.le_of_unclosed unclosed
      omega
  | succ length ih =>
    have rest : s.size - (count + 1) = length := by omega
    rw [List.range'_succ, balance?]
    split
    next deeper =>
      have same := isKind_eq_false deeper differ
      exact ih rest (by omega) (by omega) (unclosed.step le (by omega) (by simp [deeper, same]))
    next other =>
      split
      next closes =>
        split
        next last =>
          obtain rfl : depth = 1 := by omega
          have closed := unclosed.closedAt le closes differ
          rw [Option.some.injEq]
          exact ⟨fun equal => equal ▸ closed, fun closed' => closed.unique closed'⟩
        next deep =>
          refine ih rest (by omega) (by omega) (unclosed.step le (by omega) ?_)
          rw [if_pos closes, if_neg other]
          omega
      next still =>
        refine ih rest (by omega) positive (unclosed.step le positive ?_)
        rw [if_neg still, if_neg other]

theorem closing?_eq_some_iff (opens : s.isKind start opener = true) (differ : opener ≠ closer) :
    s.closing? opener closer start = some stop ↔ s.ClosedAt opener closer start stop :=
  balance?_eq_some_iff opens differ rfl (Nat.le_succ start) Nat.one_ne_zero (.opened opens differ)

theorem checkedBalance?_eq {positions : List Nat} (positive : depth ≠ 0) :
    s.checkedBalance? opener closer depth positions =
      some (s.balance? opener closer depth positions) := by
  induction positions generalizing depth with
  | nil => rfl
  | cons i rest ih =>
    rw [checkedBalance?, balance?]
    split
    · exact ih (Nat.succ_ne_zero depth)
    split
    · -- A depth of one ends the search, so what goes on is positive again.
      split
      next last => rw [if_pos (by omega)]
      next deep => rw [if_neg (by omega), ih (by omega)]
    · exact ih positive

theorem checkedBalance?_of_opener (opens : s.isKind start opener = true) :
    s.checkedBalance? opener closer 0 (start :: s.after start) =
      some (s.closing? opener closer start) := by
  rw [checkedBalance?, if_pos opens]
  exact checkedBalance?_eq Nat.one_ne_zero

end ManifestLint.TokenStream
