import ManifestLint.Proofs.Token.Links

/-!
# Neighbours

The links of a stream are exact at every position, on layout as well as on code, and edits do not
touch them. So whoever follows the links from a position meets the code tokens behind it, each once
and in order, and comes to an end.
-/
namespace ManifestLint.TokenStream

/-! ### Exact links -/

section Exact

variable (s : TokenStream)

/-- What a link to the next code token says: where the first one behind a position is, or that there
is none. -/
def LinksNext (i : Nat) : Option Nat → Prop
  | some j => s.CodeAfter i j
  | none => ∀ j, i < j → s.isCode j = false

/-- What a link to the previous code token says: where the last one in front of a position is, or
that there is none. -/
def LinksPrev (i : Nat) : Option Nat → Prop
  | some j => s.CodeBefore i j
  | none => ∀ j, j < i → s.isCode j = false

/-- Each token has a link in either direction, and every link is right. -/
structure ExactLinks : Prop where
  next_size : s.next.size = s.size
  next : ∀ i, ∀ inside : i < s.next.size, s.LinksNext i s.next[i]
  prev_size : s.prev.size = s.size
  prev : ∀ i, ∀ inside : i < s.prev.size, s.LinksPrev i s.prev[i]

theorem length_nextFrom (position : Nat) (kinds : List TokenKind) :
    (Links.nextFrom position kinds).1.length = kinds.length := by
  induction kinds generalizing position with
  | nil => rfl
  | cons kind kinds ih => exact congrArg Nat.succ (ih (position + 1))

theorem length_prevFrom (last : Option Nat) (position : Nat) (kinds : List TokenKind) :
    (Links.prevFrom last position kinds).length = kinds.length := by
  induction kinds generalizing last position with
  | nil => rfl
  | cons kind kinds ih => exact congrArg Nat.succ (ih _ (position + 1))

theorem size_next : s.next.size = s.size := by
  rw [s.next_eq, Links.next, List.size_toArray, length_nextFrom]
  exact s.length_kinds

theorem size_prev : s.prev.size = s.size := by
  rw [s.prev_eq, Links.prev, List.size_toArray, length_prevFrom]
  exact s.length_kinds

variable {s}

theorem next?_eq_none_iff {i : Nat} : s.next? i = none ↔ ∀ j, i < j → s.isCode j = false := by
  rw [next?_eq, List.find?_eq_none]
  constructor
  · intro none j behind
    cases code : s.isCode j with
    | false => rfl
    | true =>
      have bound := lt_size_of_isCode code
      exact absurd code (none j (List.mem_range'_1.mpr (by omega)))
  · intro layout j member
    rw [layout j (lt_of_mem_after member)]
    exact Bool.false_ne_true

theorem prev?_eq_none_iff {i : Nat} (inside : i < s.size) :
    s.prev? i = none ↔ ∀ j, j < i → s.isCode j = false := by
  simp [prev?_eq inside]

theorem linksNext_next? (i : Nat) : s.LinksNext i (s.next? i) := by
  cases link : s.next? i with
  | none => exact next?_eq_none_iff.mp link
  | some j => exact next?_eq_some_iff.mp link

theorem linksPrev_prev? {i : Nat} (inside : i < s.size) : s.LinksPrev i (s.prev? i) := by
  cases link : s.prev? i with
  | none => exact (prev?_eq_none_iff inside).mp link
  | some j => exact (prev?_eq_some_iff inside).mp link

theorem exactLinks (s : TokenStream) : s.ExactLinks where
  next_size := s.size_next
  next i inside := by
    have entry : s.next? i = s.next[i] := by rw [next?, Array.getElem?_eq_getElem inside]; rfl
    rw [← entry]
    exact linksNext_next? i
  prev_size := s.size_prev
  prev i inside := by
    have entry : s.prev? i = s.prev[i] := by rw [prev?, Array.getElem?_eq_getElem inside]; rfl
    rw [← entry]
    exact linksPrev_prev? (s.size_prev ▸ inside)

end Exact

/-! ### Following the links -/

/-- The positions met by following the links to the next code token from a position, down to the
last one, which has no link. -/
inductive Trail (s : TokenStream) : Nat → List Nat → Prop
  | stop {i : Nat} (last : s.next? i = none) : Trail s i []
  | step {i j : Nat} {visited : List Nat} (link : s.next? i = some j)
      (trail : Trail s j visited) : Trail s i (j :: visited)

variable {s : TokenStream} {i j : Nat}

theorem filter_after_of_last (last : s.next? i = none) : (s.after i).filter s.isCode = [] := by
  rw [next?_eq, List.find?_eq_none] at last
  exact List.filter_eq_nil_iff.mpr last

theorem filter_after_of_link (link : s.next? i = some j) :
    (s.after i).filter s.isCode = j :: (s.after j).filter s.isCode := by
  obtain ⟨⟨behind, code⟩, _⟩ := next?_eq_some_iff.mp link
  have bound := next?_lt_size link
  -- Behind the position come the layout up to its neighbour, the neighbour, and what is behind it.
  obtain ⟨gap, rfl⟩ : ∃ gap, j = i + 1 + gap := ⟨j - (i + 1), by omega⟩
  obtain ⟨rest, size⟩ : ∃ rest, s.size = i + 1 + gap + (1 + rest) :=
    ⟨s.size - (i + 1 + gap + 1), by omega⟩
  have cut : s.after i = List.range' (i + 1) gap ++ (i + 1 + gap) :: s.after (i + 1 + gap) := by
    have all : s.size - (i + 1) = gap + (rest + 1) := by omega
    have later : s.size - (i + 1 + gap + 1) = rest := by omega
    rw [after, after, all, later, ← List.range'_append_1, List.range'_succ]
  have layout : (List.range' (i + 1) gap).filter s.isCode = [] := by
    refine List.filter_eq_nil_iff.mpr fun k member => ?_
    have bounds := List.mem_range'_1.mp member
    rw [isCode_eq_false_of_next? link (by omega) (by omega)]
    exact Bool.false_ne_true
  rw [cut, List.filter_append, layout, List.nil_append, List.filter_cons_of_pos code]

/-- From every position the links lead on to an end, past the code tokens behind the position and
nothing else. -/
theorem trail_iff {visited : List Nat} :
    s.Trail i visited ↔ visited = (s.after i).filter s.isCode := by
  constructor
  · intro trail
    induction trail with
    | stop last => rw [filter_after_of_last last]
    | step link _ ih => rw [filter_after_of_link link, ih]
  · intro met
    induction visited generalizing i with
    | nil =>
      cases link : s.next? i with
      | none => exact .stop link
      | some j =>
        rw [filter_after_of_link link] at met
        cases met
    | cons k visited ih =>
      cases link : s.next? i with
      | none =>
        rw [filter_after_of_last link] at met
        cases met
      | some j =>
        rw [filter_after_of_link link] at met
        obtain ⟨rfl, rest⟩ := List.cons.inj met
        exact .step link (ih rest)

/-! ### Streams that are built and edited -/

/-- However a stream was edited after it was built from some tokens, it has a link for each of them
in either direction, to the nearest code token there if there is one. So following the links from
any position comes to an end and visits the code tokens behind it, each once and in order, and
between two code tokens the link back undoes the link on. -/
theorem links_exact_after_edits (tokens : Array Token) (edits : List Edit) :
    let s := (ofTokens tokens).applyEdits edits
    s.kinds = tokens.toList.map Token.kind ∧ s.ExactLinks ∧
      (∀ i visited, s.Trail i visited ↔ visited = (s.after i).filter s.isCode) ∧
      ∀ i j, s.isCode i = true → s.isCode j = true →
        (s.next? i = some j ↔ s.prev? j = some i) := by
  intro s
  refine ⟨?_, s.exactLinks, fun i visited => trail_iff, fun i j code code' => ?_⟩
  · exact kinds_applyEdits (ofTokens tokens) edits
  · exact next?_eq_some_iff_prev? code code'

/-- Two names with layout between them. -/
def spacedInclude : Array Token :=
  #[.new .name "include" 1 1, .new .whitespace " " 1 8, .new .comment "# c" 1 9,
    .new .newline "\n" 1 12, .new .name "foo" 2 1]

/-- The second of the edits names no token. -/
theorem links_exact_after_edits_of_spacedInclude :
    let s := (ofTokens spacedInclude).applyEdits [⟨4, "bar"⟩, ⟨9, "x"⟩]
    s.text 4 = "bar" ∧ s.Trail 0 [4] ∧ s.Trail 2 [4] ∧ s.Trail 4 [] ∧
      s.next? 0 = some 4 ∧ s.prev? 4 = some 0 := by
  intro s
  obtain ⟨_, _, trails, undoes⟩ := links_exact_after_edits spacedInclude [⟨4, "bar"⟩, ⟨9, "x"⟩]
  have link : s.next? 0 = some 4 := by decide +kernel
  refine ⟨by decide +kernel, (trails 0 [4]).mpr (by decide +kernel),
    (trails 2 [4]).mpr (by decide +kernel), (trails 4 []).mpr (by decide +kernel), link, ?_⟩
  exact (undoes 0 4 (by decide +kernel) (by decide +kernel)).mp link

end ManifestLint.TokenStream
