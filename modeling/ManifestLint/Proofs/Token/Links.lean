import ManifestLint.Proofs.Token.Edit
import Mathlib.Order.Bounds.Basic

/-!
# Links

A link is a search: the next code token of a position is the first code token found behind it, and
the previous one is the first found going back from it. So they are the least and the greatest
position of a code token on either side, and between code tokens one link undoes the other.
-/
namespace ManifestLint.TokenStream

variable (s : TokenStream)

/-- Whether a code token stands at a position. -/
def isCode (i : Nat) : Bool := (s.kind? i).any fun kind => !kind.isFormatting

/-- The first code token behind a position. -/
def CodeAfter (i next : Nat) : Prop := IsLeast {j | i < j ∧ s.isCode j = true} next

/-- The last code token in front of a position. -/
def CodeBefore (i prev : Nat) : Prop := IsGreatest {j | j < i ∧ s.isCode j = true} prev

variable {s}

theorem isCode_of_isKind {i : Nat} {kind : TokenKind} (code : kind.isFormatting = false)
    (holds : s.isKind i kind = true) : s.isCode i = true := by
  have kind? : s.kind? i = some kind := by simpa [isKind] using holds
  rw [isCode, kind?, Option.any_some, code]
  rfl

theorem lt_size_of_kind? {i : Nat} {kind : TokenKind} (holds : s.kind? i = some kind) :
    i < s.size := by
  rw [kind?_eq] at holds
  rw [← length_kinds]
  exact (List.getElem?_eq_some_iff.mp holds).1

theorem lt_size_of_isKind {i : Nat} {kind : TokenKind} (holds : s.isKind i kind = true) :
    i < s.size :=
  lt_size_of_kind? (beq_iff_eq.mp holds)

theorem isKind_inj {i : Nat} {one two : TokenKind} (holds : s.isKind i one = true)
    (holds' : s.isKind i two = true) : one = two :=
  Option.some.inj ((beq_iff_eq.mp holds).symm.trans (beq_iff_eq.mp holds'))

theorem isKind_eq_false {i : Nat} {one two : TokenKind} (holds : s.isKind i one = true)
    (other : one ≠ two) : s.isKind i two = false := by
  rw [Bool.eq_false_iff]
  intro holds'
  exact other (isKind_inj holds holds')

theorem lt_size_of_isCode {i : Nat} (code : s.isCode i = true) : i < s.size := by
  rw [isCode] at code
  cases kind : s.kind? i with
  | none => simp [kind] at code
  | some kind' => exact lt_size_of_kind? kind

/-! ### Links to the next code token -/

theorem nextFrom_eq (position : Nat) {kinds : List TokenKind}
    (rest : s.kinds.drop position = kinds) :
    (Links.nextFrom position kinds).2 =
        (List.range' position (s.size - position)).find? s.isCode ∧
      ∀ k, (Links.nextFrom position kinds).1[k]?.join =
        (s.after (position + k)).find? s.isCode := by
  induction kinds generalizing position with
  | nil =>
    -- Nothing is left of the kinds, so there is nothing behind any later position.
    have past : s.size ≤ position := by
      rw [← length_kinds]
      exact List.drop_eq_nil_iff.mp rest
    have none : s.size - position = 0 := by omega
    refine ⟨by rw [none]; rfl, fun k => ?_⟩
    have beyond : s.size - (position + k + 1) = 0 := by omega
    rw [after, beyond]
    rfl
  | cons kind kinds ih =>
    have here : s.kind? position = some kind := by
      rw [kind?_eq, ← List.head?_drop, rest]
      rfl
    have inside := lt_size_of_kind? here
    obtain ⟨following, links⟩ := ih (position + 1) (by
      rw [← List.tail_drop, rest]
      rfl)
    -- The search from here looks at this position first, and that from behind does not.
    have count : s.size - position = s.size - (position + 1) + 1 := by omega
    constructor
    · rw [Links.nextFrom, count, List.range'_succ, List.find?_cons, isCode, here, ← following]
      cases h : kind.isFormatting <;> simp [h]
    · intro k
      cases k with
      | zero => exact following
      | succ k =>
        have shift : position + (k + 1) = position + 1 + k := by omega
        rw [shift]
        exact links k

/-- The next code token is the first one behind a position. -/
theorem next?_eq (i : Nat) : s.next? i = (s.after i).find? s.isCode := by
  have links := (nextFrom_eq 0 (List.drop_zero (l := s.kinds))).2 i
  rw [Nat.zero_add] at links
  rw [next?, s.next_eq, ← links, Links.next, List.getElem?_toArray]
  rfl

theorem next?_lt_size {i j : Nat} (link : s.next? i = some j) : j < s.size := by
  rw [next?_eq] at link
  exact lt_size_of_isCode (List.find?_some link)

theorem lt_of_mem_after {i j : Nat} (member : j ∈ s.after i) : i < j := by
  rw [after, List.mem_range'_1] at member
  omega

/-- A search behind a position finds the least position that passes the test. -/
theorem find?_after_eq_some_iff {test : Nat → Bool} (inside : ∀ j, test j = true → j < s.size)
    {i j : Nat} : (s.after i).find? test = some j ↔ IsLeast {k | i < k ∧ test k = true} j := by
  rw [after, List.find?_range'_eq_some]
  constructor
  · rintro ⟨passes, member, before⟩
    have bounds := List.mem_range'_1.mp member
    refine ⟨⟨by omega, passes⟩, ?_⟩
    rintro k ⟨behind, passes'⟩
    refine Nat.le_of_not_lt fun earlier => ?_
    have fails := before k behind earlier
    rw [passes'] at fails
    cases fails
  · rintro ⟨⟨behind, passes⟩, least⟩
    have bound := inside j passes
    refine ⟨passes, List.mem_range'_1.mpr (by omega), fun k after earlier => ?_⟩
    cases tested : test k with
    | false => rfl
    | true =>
      have le := least ⟨after, tested⟩
      omega

theorem next?_eq_some_iff {i j : Nat} : s.next? i = some j ↔ s.CodeAfter i j := by
  rw [next?_eq]
  exact find?_after_eq_some_iff fun _ => lt_size_of_isCode

theorem lt_of_next? {i j : Nat} (link : s.next? i = some j) : i < j := by
  rw [next?_eq] at link
  exact lt_of_mem_after (List.mem_of_find?_eq_some link)

theorem isCode_eq_false_of_next? {i j k : Nat} (link : s.next? i = some j) (behind : i < k)
    (before : k < j) : s.isCode k = false := by
  rw [next?_eq, after, List.find?_range'_eq_some] at link
  simpa using link.2.2 k behind before

/-- A code token is the next one of one code token at most. -/
theorem next?_inj {i j k : Nat} (code : s.isCode i = true) (code' : s.isCode j = true)
    (link : s.next? i = some k) (link' : s.next? j = some k) : i = j := by
  have before := lt_of_next? link
  have before' := lt_of_next? link'
  rcases Nat.lt_trichotomy i j with less | same | greater
  · rw [isCode_eq_false_of_next? link less before'] at code'
    cases code'
  · exact same
  · rw [isCode_eq_false_of_next? link' greater before] at code
    cases code

/-! ### Links to the previous code token -/

theorem prevFrom_eq (position : Nat) (last : Option Nat) {kinds : List TokenKind}
    (rest : s.kinds.drop position = kinds)
    (before : last = (List.range position).reverse.find? s.isCode) (k : Nat)
    (inside : k < kinds.length) :
    (Links.prevFrom last position kinds)[k]?.join =
      (List.range (position + k)).reverse.find? s.isCode := by
  induction kinds generalizing position last k with
  | nil => exact absurd inside (Nat.not_lt_zero k)
  | cons kind kinds ih =>
    have here : s.kind? position = some kind := by
      rw [kind?_eq, ← List.head?_drop, rest]
      rfl
    cases k with
    | zero => exact before
    | succ k =>
      have shift : position + (k + 1) = position + 1 + k := by omega
      rw [shift]
      apply ih
      · rw [← List.tail_drop, rest]
        rfl
      -- Going back from the next position, this one is met first.
      · rw [List.range_succ, List.reverse_append, List.reverse_singleton, List.singleton_append,
          List.find?_cons, isCode, here, ← before]
        cases h : kind.isFormatting <;> simp [h]
      · exact Nat.lt_of_succ_lt_succ inside

/-- The previous code token is the first one going back from a position. -/
theorem prev?_eq {i : Nat} (inside : i < s.size) :
    s.prev? i = (List.range i).reverse.find? s.isCode := by
  have links := prevFrom_eq 0 none (List.drop_zero (l := s.kinds)) rfl i
    (by rw [length_kinds]; exact inside)
  rw [Nat.zero_add] at links
  rw [prev?, s.prev_eq, ← links, Links.prev, List.getElem?_toArray]
  rfl

/-- A search back from a position finds the greatest position that passes the test. -/
theorem find?_before_eq_some_iff {test : Nat → Bool} {i j : Nat} :
    (List.range i).reverse.find? test = some j ↔ IsGreatest {k | k < i ∧ test k = true} j := by
  induction i with
  | zero => simp [IsGreatest]
  | succ i ih =>
    rw [List.range_succ, List.reverse_append, List.reverse_singleton, List.singleton_append,
      List.find?_cons]
    cases tested : test i with
    | true =>
      -- The position met first passes, and every other one is smaller.
      have greatest : IsGreatest {k | k < i + 1 ∧ test k = true} i :=
        ⟨⟨Nat.lt_succ_self i, tested⟩, fun k found => Nat.le_of_lt_succ found.1⟩
      constructor
      · intro equal
        cases equal
        exact greatest
      · intro other
        rw [greatest.unique other]
    | false =>
      have same : {k | k < i + 1 ∧ test k = true} = {k | k < i ∧ test k = true} := by
        ext k
        constructor
        · rintro ⟨bound, passes⟩
          have other : k ≠ i := by
            rintro rfl
            rw [tested] at passes
            cases passes
          exact ⟨by omega, passes⟩
        · rintro ⟨bound, passes⟩
          exact ⟨by omega, passes⟩
      rw [same]
      exact ih

theorem prev?_eq_some_iff {i j : Nat} (inside : i < s.size) :
    s.prev? i = some j ↔ s.CodeBefore i j := by
  rw [prev?_eq inside]
  exact find?_before_eq_some_iff

/-- Of two code tokens, one is the first behind the other exactly if the other is the last in front
of it: nothing but layout lies between them. -/
theorem codeAfter_iff_codeBefore {i j : Nat} (code : s.isCode i = true)
    (code' : s.isCode j = true) : s.CodeAfter i j ↔ s.CodeBefore j i := by
  constructor
  · rintro ⟨⟨before, _⟩, least⟩
    refine ⟨⟨before, code⟩, fun k found => Nat.le_of_not_lt fun between => ?_⟩
    have le := least ⟨between, found.2⟩
    exact absurd found.1 (Nat.not_lt.mpr le)
  · rintro ⟨⟨before, _⟩, greatest⟩
    refine ⟨⟨before, code'⟩, fun k found => Nat.le_of_not_lt fun between => ?_⟩
    have le := greatest ⟨between, found.2⟩
    exact absurd found.1 (Nat.not_lt.mpr le)

/-- Going back undoes going on, and going on undoes going back. -/
theorem next?_eq_some_iff_prev? {i j : Nat} (code : s.isCode i = true)
    (code' : s.isCode j = true) : s.next? i = some j ↔ s.prev? j = some i := by
  rw [next?_eq_some_iff, prev?_eq_some_iff (lt_size_of_isCode code'),
    codeAfter_iff_codeBefore code code']

/-- The previous code token of the next one of a code token is that token. -/
theorem prev?_of_next? {i j : Nat} (code : s.isCode i = true) (link : s.next? i = some j) :
    s.prev? j = some i := by
  obtain ⟨⟨_, code'⟩, _⟩ := next?_eq_some_iff.mp link
  exact (next?_eq_some_iff_prev? code code').mp link

end ManifestLint.TokenStream
