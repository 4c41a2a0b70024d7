import ManifestLint.Block.Index
import ManifestLint.Proofs.Block.Balance

/-!
# The nodes of a stream

A node is told by its tokens alone: a keyword, the first opening brace behind it, the brace that
closes what that one opens, and no other keyword from the first to the last. The scan for nodes,
which starts afresh at every keyword and ignores closing braces where nothing is open, finds these
nodes and no others, in the order in which they stand.

The proof follows the scan. What it has found is exactly the nodes that end before the present
position (`NodeScan.Exact`), and the node it holds open is the only one that may end later
(`OpenNode.Seen`).
-/
namespace ManifestLint

namespace TokenStream

/-- No token of a kind stands strictly between two positions. -/
def Absent (s : TokenStream) (kind : TokenKind) (start stop : Nat) : Prop :=
  ∀ j, start < j → j < stop → s.isKind j kind = false

/-- The first opening brace behind a position. -/
def BodyAt (s : TokenStream) (start body : Nat) : Prop :=
  IsLeast {j | start < j ∧ s.isKind j .lbrace = true} body

/-- A node with the opening brace of its body. Its titles are the literals before that brace. -/
structure IsNode (s : TokenStream) (b : Block) (body : Nat) : Prop where
  keyword : s.isKind b.start .nodeKw = true
  opens : s.BodyAt b.start body
  closes : s.ClosedAt .lbrace .rbrace body b.stop
  alone : s.Absent .nodeKw b.start (b.stop + 1)
  kind : b.kind = .node ((List.range' (b.start + 1) (body - (b.start + 1))).filter fun i =>
    [TokenKind.string, .quoted, .name, .regex].any (s.isKind i))

end TokenStream

/-- What holds of a node that a scan has open after the positions before a given one. -/
structure OpenNode.Seen (s : TokenStream) (node : OpenNode) (count : Nat) : Prop where
  keyword : s.isKind node.start .nodeKw = true
  before : node.start < count
  alone : s.Absent .nodeKw node.start count
  ahead : node.depth = 0 → s.Absent .lbrace node.start count
  inside : node.depth ≠ 0 → ∃ body, body < count ∧ s.BodyAt node.start body ∧
    s.Unclosed .lbrace .rbrace body count node.depth ∧
    node.titles = s.titlesBetween node.start body

/-- What holds of a scan that has seen the positions before a given one: it has found the nodes that
end there, one behind the other, and a node that may still end is open. -/
structure NodeScan.Exact (s : TokenStream) (scan : NodeScan) (count : Nat) : Prop where
  mem_found : ∀ b, b ∈ scan.found ↔ b.stop < count ∧ ∃ body, s.IsNode b body
  apart : scan.found.Pairwise fun later earlier => earlier.stop < later.start
  idle : scan.current = none → ∀ b body, s.IsNode b body → b.start < count → b.stop < count
  opened : ∀ node, scan.current = some node → node.Seen s count

variable {s : TokenStream} {count : Nat}

theorem TokenStream.Absent.succ {kind : TokenKind} {start : Nat}
    (absent : s.Absent kind start count) (here : s.isKind count kind = false) :
    s.Absent kind start (count + 1) := by
  intro j behind before
  rcases Nat.lt_succ_iff_lt_or_eq.mp before with earlier | rfl
  · exact absent j behind earlier
  · exact here

theorem TokenStream.Absent.le {kind : TokenKind} {start j : Nat}
    (absent : s.Absent kind start count) (holds : s.isKind j kind = true) (before : j < count) :
    j ≤ start := by
  refine Nat.le_of_not_lt fun behind => ?_
  rw [absent j behind before] at holds
  cases holds

/-! ### Nodes -/

namespace TokenStream.IsNode

variable {b : Block} {body : Nat}

theorem body_bounds (isNode : s.IsNode b body) : b.start < body ∧ body < b.stop :=
  ⟨isNode.opens.1.1, (isNode.closes.exists_unclosed isNode.opens.1.2 (by decide)).1⟩

theorem brace (isNode : s.IsNode b body) : s.isKind b.stop .rbrace = true :=
  isNode.closes.isKind isNode.opens.1.2 (by decide)

/-- A keyword begins one node at most. -/
theorem unique {b' : Block} {body' : Nat} (isNode : s.IsNode b body) (isNode' : s.IsNode b' body')
    (start : b.start = b'.start) : b = b' := by
  have bodies : body = body' := by
    have opens := isNode.opens
    rw [start] at opens
    exact opens.unique isNode'.opens
  subst bodies
  have stop : b.stop = b'.stop := isNode.closes.unique isNode'.closes
  have kind : b.kind = b'.kind := by rw [isNode.kind, isNode'.kind, start]
  obtain ⟨_, _, _⟩ := b
  obtain ⟨_, _, _⟩ := b'
  cases start
  cases stop
  cases kind
  rfl

theorem mem_titles (isNode : s.IsNode b body) {title : Nat} (member : title ∈ b.kind.titles) :
    b.start < title ∧ title < b.stop := by
  rw [isNode.kind] at member
  have inside := List.mem_range'_1.mp (List.mem_filter.mp member).1
  have bounds := isNode.body_bounds
  omega

theorem titles_increasing (isNode : s.IsNode b body) : b.kind.titles.Pairwise (· < ·) := by
  rw [isNode.kind]
  exact List.Pairwise.filter _ List.pairwise_lt_range'

end TokenStream.IsNode

theorem TokenStream.titlesBetween_eq {start body : Nat} (keyword : s.isKind start .nodeKw = true)
    (opens : s.BodyAt start body) :
    s.titlesBetween start body = (List.range' (start + 1) (body - (start + 1))).filter fun i =>
      [TokenKind.string, .quoted, .name, .regex].any (s.isKind i) := by
  have behind : start < body := opens.1.1
  have bound : min body s.size = body :=
    Nat.min_eq_left (Nat.le_of_lt (lt_size_of_isKind opens.1.2))
  have length : body - start = body - (start + 1) + 1 := by omega
  -- The keyword itself is no title.
  have first : s.isNodeTitle start = false := by
    simp [isNodeTitle, isKind_eq_false keyword]
  have test : s.isNodeTitle = fun i =>
      [TokenKind.string, .quoted, .name, .regex].any (s.isKind i) := by
    funext i
    simp [isNodeTitle, Bool.or_assoc]
  rw [titlesBetween, Span.positions, bound, length, List.range'_succ,
    List.filter_cons_of_neg (by simp [first]), test]

/-! ### The node still open -/

namespace OpenNode.Seen

variable {node : OpenNode}

theorem fresh (keyword : s.isKind count .nodeKw = true) : Seen s ⟨count, [], 0⟩ (count + 1) where
  keyword := keyword
  before := Nat.lt_succ_self count
  alone := fun _ behind before => absurd before (Nat.not_lt.mpr behind)
  ahead := fun _ _ behind before => absurd before (Nat.not_lt.mpr behind)
  inside := fun nonzero => absurd rfl nonzero

theorem skip (seen : node.Seen s count) (keyword : s.isKind count .nodeKw = false)
    (opens : s.isKind count .lbrace = false)
    (closes : s.isKind count .rbrace = true → node.depth = 0) : node.Seen s (count + 1) where
  keyword := seen.keyword
  before := Nat.lt_succ_of_lt seen.before
  alone := seen.alone.succ keyword
  ahead := fun zero => (seen.ahead zero).succ opens
  inside := by
    intro nonzero
    obtain ⟨body, before, opening, unclosed, titles⟩ := seen.inside nonzero
    have open' : s.isKind count .rbrace = false := Bool.eq_false_iff.mpr (nonzero ∘ closes)
    refine ⟨body, Nat.lt_succ_of_lt before, opening, ?_, titles⟩
    exact unclosed.step (Nat.le_of_lt before) nonzero (by simp [opens, open'])

theorem enter (seen : node.Seen s count) (opens : s.isKind count .lbrace = true) :
    Seen s { node with
      titles := if node.depth = 0 then s.titlesBetween node.start count else node.titles
      depth := node.depth + 1 } (count + 1) where
  keyword := seen.keyword
  before := Nat.lt_succ_of_lt seen.before
  alone := seen.alone.succ (TokenStream.isKind_eq_false opens (by decide))
  ahead := fun zero => absurd zero (Nat.succ_ne_zero _)
  inside := by
    intro nonzero
    have still : s.isKind count .rbrace = false := TokenStream.isKind_eq_false opens (by decide)
    -- The first opening brace begins the body and fixes the titles, any other goes deeper.
    by_cases zero : node.depth = 0
    · refine ⟨count, Nat.lt_succ_self count, ⟨⟨seen.before, opens⟩, ?_⟩, ?_, if_pos zero⟩
      · rintro j ⟨behind, opener⟩
        refine Nat.le_of_not_lt fun before => ?_
        exact Nat.not_le_of_lt behind ((seen.ahead zero).le opener before)
      · simp only [zero]
        exact .opened opens (by decide)
    · obtain ⟨body, before, opening, unclosed, titles⟩ := seen.inside zero
      refine ⟨body, Nat.lt_succ_of_lt before, opening, ?_, (if_neg zero).trans titles⟩
      exact unclosed.step (Nat.le_of_lt before) nonzero (by simp [opens, still])

theorem leave (seen : node.Seen s count) (closes : s.isKind count .rbrace = true)
    (deep : 1 < node.depth) : Seen s { node with depth := node.depth - 1 } (count + 1) where
  keyword := seen.keyword
  before := Nat.lt_succ_of_lt seen.before
  alone := seen.alone.succ (TokenStream.isKind_eq_false closes (by decide))
  ahead := fun zero => by dsimp only at zero; omega
  inside := by
    intro nonzero
    have still : s.isKind count .lbrace = false := TokenStream.isKind_eq_false closes (by decide)
    obtain ⟨body, before, opening, unclosed, titles⟩ := seen.inside (by omega)
    refine ⟨body, Nat.lt_succ_of_lt before, opening, ?_, titles⟩
    refine unclosed.step (Nat.le_of_lt before) nonzero ?_
    simp only [closes, still, if_true, Bool.false_eq_true, if_false]
    omega

theorem isNode (seen : node.Seen s count) (closes : s.isKind count .rbrace = true)
    (last : node.depth = 1) : ∃ body, s.IsNode ⟨node.start, count, .node node.titles⟩ body := by
  obtain ⟨body, before, opening, unclosed, titles⟩ := seen.inside (by omega)
  rw [last] at unclosed
  refine ⟨body, seen.keyword, opening, ?_, ?_, ?_⟩
  · exact unclosed.closedAt (Nat.le_of_lt before) closes (by decide)
  · exact seen.alone.succ (TokenStream.isKind_eq_false closes (by decide))
  · rw [titles, TokenStream.titlesBetween_eq seen.keyword opening]

variable {b : Block} {body : Nat}

theorem start_eq (seen : node.Seen s count) (isNode : s.IsNode b body) (before : b.start < count)
    (reaches : node.start ≤ b.stop) : b.start = node.start :=
  -- Neither keyword stands among the tokens of the other node.
  Nat.le_antisymm (seen.alone.le isNode.keyword before)
    (isNode.alone.le seen.keyword (Nat.lt_succ_of_le reaches))

/-- While a node is open, the nodes that have ended lie before it. -/
theorem stop_lt (seen : node.Seen s count) (isNode : s.IsNode b body) (ended : b.stop < count) :
    b.stop < node.start := by
  refine Nat.lt_of_not_le fun reaches => ?_
  have bounds := isNode.body_bounds
  have start := seen.start_eq isNode (by omega) reaches
  have opens := isNode.opens
  rw [start] at opens
  -- Both begin at one keyword. Then the body of the one that has ended was never seen, or it was
  -- closed while it counts as open.
  by_cases zero : node.depth = 0
  · have before := (seen.ahead zero).le opens.1.2 (by omega)
    omega
  · obtain ⟨body', _, opening, unclosed, _⟩ := seen.inside zero
    obtain rfl : body = body' := opens.unique opening
    have later := isNode.closes.le_of_unclosed unclosed
    omega

end OpenNode.Seen

/-! ### The scan -/

namespace NodeScan.Exact

variable {scan : NodeScan} {node : OpenNode}

theorem reopen (exact : scan.Exact s count) {scan' : NodeScan} (found : scan'.found = scan.found)
    (current : scan'.current = some node) (seen : node.Seen s (count + 1)) :
    scan'.Exact s (count + 1) where
  mem_found := by
    intro b
    rw [found, exact.mem_found]
    constructor
    · rintro ⟨ended, isNode⟩
      exact ⟨Nat.lt_succ_of_lt ended, isNode⟩
    · -- No node ends here, since behind it one is still open.
      rintro ⟨ended, body, isNode⟩
      have earlier := seen.stop_lt isNode ended
      have start := seen.before
      exact ⟨by omega, body, isNode⟩
  apart := found ▸ exact.apart
  idle := by
    intro none
    rw [current] at none
    cases none
  opened := by
    intro other current'
    rw [current] at current'
    cases current'
    exact seen

theorem wait (exact : scan.Exact s count) (current : scan.current = none)
    (keyword : s.isKind count .nodeKw = false) : scan.Exact s (count + 1) where
  mem_found := by
    intro b
    rw [exact.mem_found]
    constructor
    · rintro ⟨ended, isNode⟩
      exact ⟨Nat.lt_succ_of_lt ended, isNode⟩
    · -- A node that ends here began before, and then it would be open.
      rintro ⟨ended, body, isNode⟩
      have bounds := isNode.body_bounds
      exact ⟨exact.idle current b body isNode (by omega), body, isNode⟩
  apart := exact.apart
  idle := by
    intro _ b body isNode started
    have other : b.start ≠ count := by
      rintro rfl
      rw [isNode.keyword] at keyword
      cases keyword
    have ended := exact.idle current b body isNode (by omega)
    omega
  opened := by
    intro node current'
    rw [current] at current'
    cases current'

theorem close (exact : scan.Exact s count) (seen : node.Seen s count)
    (closes : s.isKind count .rbrace = true) (last : node.depth = 1) :
    Exact s ⟨⟨node.start, count, .node node.titles⟩ :: scan.found, none⟩ (count + 1) := by
  obtain ⟨body, closed⟩ := seen.isNode closes last
  -- A node that begins so far and is not the one that ends here lies before it.
  have split {b : Block} {body' : Nat} (isNode : s.IsNode b body') (started : b.start < count) :
      b = ⟨node.start, count, .node node.titles⟩ ∨ b.stop < node.start := by
    rcases Nat.lt_or_ge b.stop node.start with earlier | reaches
    · exact .inr earlier
    · exact .inl (isNode.unique closed (seen.start_eq isNode started reaches))
  have start := seen.before
  refine ⟨fun b => ?_, ?_, fun _ b body' isNode started => ?_, fun _ none => by cases none⟩
  · rw [List.mem_cons, exact.mem_found]
    constructor
    · rintro (rfl | ⟨ended, isNode⟩)
      · exact ⟨Nat.lt_succ_self count, body, closed⟩
      · exact ⟨Nat.lt_succ_of_lt ended, isNode⟩
    · rintro ⟨ended, body', isNode⟩
      have bounds := isNode.body_bounds
      refine (split isNode (by omega)).imp_right fun earlier => ?_
      exact ⟨by omega, body', isNode⟩
  · -- The node was open while the others were found, so it comes behind them.
    refine List.pairwise_cons.mpr ⟨fun b member => ?_, exact.apart⟩
    obtain ⟨ended, body', isNode⟩ := (exact.mem_found b).mp member
    exact seen.stop_lt isNode ended
  · have other : b.start ≠ count := fun same => by
      have keyword := isNode.keyword
      rw [same, TokenStream.isKind_eq_false closes (by decide)] at keyword
      cases keyword
    rcases split isNode (by omega) with rfl | earlier
    · exact Nat.lt_succ_self count
    · omega

end NodeScan.Exact

namespace TokenStream

theorem scanNode_exact {scan : NodeScan} (exact : scan.Exact s count) :
    (s.scanNode scan count).Exact s (count + 1) := by
  rw [scanNode]
  split
  next keyword => exact exact.reopen rfl rfl (.fresh keyword)
  next other =>
    have keyword : s.isKind count .nodeKw = false := Bool.eq_false_iff.mpr other
    split
    next current => exact exact.wait current keyword
    next node current =>
      have seen := exact.opened node current
      split
      next opens => exact exact.reopen rfl rfl (seen.enter opens)
      next other =>
        have opens : s.isKind count .lbrace = false := Bool.eq_false_iff.mpr other
        split
        next closes =>
          split
          next zero => exact exact.reopen rfl current (seen.skip keyword opens fun _ => zero)
          next nonzero =>
            split
            next last => exact exact.close seen closes last
            next deep => exact exact.reopen rfl rfl (seen.leave closes (by omega))
        next other =>
          exact exact.reopen rfl current (seen.skip keyword opens fun closes => absurd closes other)

theorem scanNodes_exact (s : TokenStream) (count : Nat) :
    ((List.range count).foldl s.scanNode ⟨[], none⟩).Exact s count := by
  induction count with
  | zero => exact ⟨by simp, List.Pairwise.nil, by simp, by simp⟩
  | succ count ih =>
    rw [List.range_succ, List.foldl_append]
    exact scanNode_exact ih

theorem mem_nodes_iff {b : Block} : b ∈ s.nodes ↔ ∃ body, s.IsNode b body := by
  rw [nodes, List.mem_reverse, (scanNodes_exact s s.size).mem_found, and_iff_right_iff_imp]
  -- The brace that ends a node is a token of the stream.
  rintro ⟨body, isNode⟩
  exact lt_size_of_isKind isNode.brace

theorem nodes_apart (s : TokenStream) :
    s.nodes.Pairwise fun earlier later => earlier.stop < later.start :=
  List.pairwise_reverse.mpr (scanNodes_exact s s.size).apart

/-- The titles of all nodes increase: no token is a title twice. -/
theorem nodeTitles_increasing (s : TokenStream) :
    (s.nodes.flatMap fun b => b.kind.titles).Pairwise (· < ·) := by
  refine List.pairwise_flatMap.mpr ⟨fun b member => ?_, ?_⟩
  · obtain ⟨body, isNode⟩ := mem_nodes_iff.mp member
    exact isNode.titles_increasing
  · refine s.nodes_apart.imp_of_mem fun {earlier later} found found' apart => ?_
    obtain ⟨_, isNode⟩ := mem_nodes_iff.mp found
    obtain ⟨_, isNode'⟩ := mem_nodes_iff.mp found'
    intro title member title' member'
    have ends := (isNode.mem_titles member).2
    have begins := (isNode'.mem_titles member').1
    omega

/-- The nodes that are found are those of the stream, each once, in the order of their keywords and
one behind the end of the other. -/
theorem nodes_found_exactly (s : TokenStream) :
    (∀ b, b ∈ s.nodes ↔ ∃ body, s.IsNode b body) ∧
      s.nodes.Pairwise fun earlier later =>
        earlier.start < earlier.stop ∧ earlier.stop < later.start := by
  refine ⟨fun b => mem_nodes_iff, ?_⟩
  refine s.nodes_apart.imp_of_mem fun {earlier later} found _ apart => ⟨?_, apart⟩
  obtain ⟨body, isNode⟩ := mem_nodes_iff.mp found
  have bounds := isNode.body_bounds
  omega

/-- The first keyword is given up for the second, whose body a stray closing brace does not touch. -/
example : nodes (.ofList ([.nodeKw, .name, .lbrace, .nodeKw, .rbrace, .regex, .lbrace, .lbrace,
    .rbrace, .rbrace].map (.new · "" 1 1))) = [⟨3, 9, .node [5]⟩] := by decide

end TokenStream

end ManifestLint
