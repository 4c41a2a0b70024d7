import ManifestLint.Proofs.Layering.Fetching

/-!
# Titles of nodes that look like declared resources

The type of a declared resource is told by a name and an opening brace behind it. Before the body of
a node such a name is a title, and it is passed over only right behind the keyword. So of several
titles the last one is reported as a declared resource if it is a bare name. No other title is, and
whatever else is reported as declared stands in the body.
-/
namespace ManifestLint

/-- Whether a violation reports something that a node declares. -/
def Violation.reportsDeclaration (s : TokenStream) (b : Block) (v : Violation) : Bool :=
  v.opens s!"node '{b.title s}' declares "

namespace TokenStream

/-- Titles behind a title, each behind a comma, and the opening brace behind the last. -/
inductive MoreTitles (s : TokenStream) : Nat → List Nat → Nat → Prop
  | done {title body : Nat} (after : s.CodeAfter title body)
      (opens : s.isKind body .lbrace = true) : s.MoreTitles title [] body
  | comma {title comma next : Nat} {rest : List Nat} {body : Nat} (after : s.CodeAfter title comma)
      (separates : s.isKind comma .comma = true) (follows : s.CodeAfter comma next)
      (isTitle : s.isNodeTitle next = true) (more : s.MoreTitles next rest body) :
      s.MoreTitles title (next :: rest) body

/-- The head of a node: a keyword, titles with commas between them, and an opening brace. There may
be no title. -/
inductive NodeHead (s : TokenStream) (start : Nat) : List Nat → Nat → Prop
  | untitled {body : Nat} (after : s.CodeAfter start body) (opens : s.isKind body .lbrace = true) :
      s.NodeHead start [] body
  | titled {first : Nat} {rest : List Nat} {body : Nat} (after : s.CodeAfter start first)
      (isTitle : s.isNodeTitle first = true) (more : s.MoreTitles first rest body) :
      s.NodeHead start (first :: rest) body

variable {s : TokenStream} {start body i : Nat} {titles : List Nat}

/-! ### Heads -/

theorem CodeAfter.absent (after : s.CodeAfter start body) : s.Absent .lbrace start body := by
  intro j behind before
  refine Bool.eq_false_iff.mpr fun brace => ?_
  exact absurd (after.2 ⟨behind, isCode_of_isKind rfl brace⟩) (Nat.not_le.mpr before)

theorem Absent.append {middle : Nat} (first : s.Absent .lbrace start middle)
    (here : s.isKind middle .lbrace = false) (rest : s.Absent .lbrace middle body) :
    s.Absent .lbrace start body := by
  intro j behind before
  rcases Nat.lt_trichotomy j middle with earlier | rfl | later
  · exact first j behind earlier
  · exact here
  · exact rest j later before

theorem isKind_lbrace_of_isNodeTitle (isTitle : s.isNodeTitle i = true) :
    s.isKind i .lbrace = false := by
  refine Bool.eq_false_iff.mpr fun brace => ?_
  simp [isNodeTitle, isKind_eq_false brace] at isTitle

theorem isCode_of_isNodeTitle (isTitle : s.isNodeTitle i = true) : s.isCode i = true := by
  simp only [isNodeTitle, Bool.or_eq_true] at isTitle
  rcases isTitle with ((kind | kind) | kind) | kind <;> exact isCode_of_isKind rfl kind

namespace MoreTitles

theorem absent (more : s.MoreTitles i titles body) : s.Absent .lbrace i body := by
  induction more with
  | done after _ => exact after.absent
  | comma after separates follows isTitle _ ih =>
    refine after.absent.append (isKind_eq_false separates (by decide)) ?_
    exact follows.absent.append (isKind_lbrace_of_isNodeTitle isTitle) ih

theorem lt (more : s.MoreTitles i titles body) : i < body := by
  induction more with
  | done after _ => exact after.1.1
  | comma after _ follows _ _ ih => exact (after.1.1.trans follows.1.1).trans ih

theorem isKind_body (more : s.MoreTitles i titles body) : s.isKind body .lbrace = true := by
  induction more with
  | done _ opens => exact opens
  | comma _ _ _ _ _ ih => exact ih

theorem codeAfter_last (more : s.MoreTitles i titles body) :
    s.CodeAfter (titles.getLastD i) body := by
  induction more with
  | done after _ => exact after
  | comma _ _ _ _ _ ih => rwa [List.getLastD_cons]

theorem isCode_last (more : s.MoreTitles i titles body) (code : s.isCode i = true) :
    s.isCode (titles.getLastD i) = true := by
  induction more with
  | done _ _ => exact code
  | comma _ _ _ isTitle _ ih =>
    rw [List.getLastD_cons]
    exact ih (isCode_of_isNodeTitle isTitle)

/-- Before the last of several titles stands a comma. -/
theorem prev?_last (more : s.MoreTitles i titles body) (several : titles ≠ []) :
    ∃ comma, s.prev? (titles.getLastD i) = some comma ∧ s.isKind comma .comma = true := by
  induction more with
  | done _ _ => exact absurd rfl several
  | @comma _ comma next rest _ _ separates follows _ _ ih =>
    rw [List.getLastD_cons]
    cases rest with
    | nil =>
      have code := isCode_of_isKind rfl separates
      exact ⟨comma, prev?_of_next? code (next?_eq_some_iff.mpr follows), separates⟩
    | cons => exact ih (List.cons_ne_nil _ _)

end MoreTitles

namespace NodeHead

theorem bodyAt (head : s.NodeHead start titles body) : s.BodyAt start body := by
  have bounds : start < body ∧ s.isKind body .lbrace = true ∧ s.Absent .lbrace start body := by
    cases head with
    | untitled after opens => exact ⟨after.1.1, opens, after.absent⟩
    | titled after isTitle more =>
      refine ⟨after.1.1.trans more.lt, more.isKind_body, ?_⟩
      exact after.absent.append (isKind_lbrace_of_isNodeTitle isTitle) more.absent
  refine ⟨⟨bounds.1, bounds.2.1⟩, fun j other => Nat.le_of_not_lt fun before => ?_⟩
  exact absurd (bounds.2.2.le other.2 before) (Nat.not_le.mpr other.1)

theorem codeAfter_last (head : s.NodeHead start titles body) :
    s.CodeAfter (titles.getLastD start) body := by
  cases head with
  | untitled after _ => exact after
  | titled _ _ more =>
    rw [List.getLastD_cons]
    exact more.codeAfter_last

theorem isCode_last (head : s.NodeHead start titles body) (keyword : s.isKind start .nodeKw = true) :
    s.isCode (titles.getLastD start) = true := by
  cases head with
  | untitled _ _ => exact isCode_of_isKind rfl keyword
  | titled _ isTitle more =>
    rw [List.getLastD_cons]
    exact more.isCode_last (isCode_of_isNodeTitle isTitle)

/-- A name in the head of a node is taken for the type of a declared resource exactly if it is the
last of several titles. -/
theorem isResourceType_iff (head : s.NodeHead start titles body)
    (keyword : s.isKind start .nodeKw = true) (behind : start ≤ i) (before : i ≤ body) :
    s.isResourceType i = true ↔
      2 ≤ titles.length ∧ titles.getLast? = some i ∧ s.isKind i .name = true := by
  have last := head.codeAfter_last
  constructor
  · intro resource
    simp only [isResourceType, Bool.and_eq_true, nextIs_eq_true_iff, Bool.not_eq_true'] at resource
    obtain ⟨⟨name, brace, next, opens⟩, noHead⟩ := resource
    -- The brace behind the name is the one that begins the body.
    have bodyAt := head.bodyAt
    have inside : i < body := by
      refine Nat.lt_of_le_of_ne before ?_
      rintro rfl
      exact absurd (isKind_inj name bodyAt.1.2) (by decide)
    have brace_eq : brace = body := by
      refine Nat.le_antisymm (next.2 ⟨inside, isCode_of_isKind rfl bodyAt.1.2⟩) ?_
      exact bodyAt.2 ⟨Nat.lt_of_le_of_lt behind next.1.1, opens⟩
    subst brace_eq
    have here : i = titles.getLastD start :=
      next?_inj (isCode_of_isKind rfl name) (head.isCode_last keyword)
        (next?_eq_some_iff.mpr next) (next?_eq_some_iff.mpr last)
    cases head with
    | untitled _ _ =>
      rw [here] at name
      exact absurd (isKind_inj keyword name) (by decide)
    | @titled first rest _ after _ _ =>
      cases rest with
      | nil =>
        -- A single title stands right behind the keyword.
        have link : s.prev? i = some start := by
          rw [here]
          exact prev?_of_next? (isCode_of_isKind rfl keyword) (next?_eq_some_iff.mpr after)
        simp [headKeywords, prevIs, link, keyword] at noHead
      | cons second rest =>
        refine ⟨by simp, ?_, name⟩
        rw [here, List.getLastD_cons, List.getLastD_cons, List.getLast?_cons, List.getLast?_cons]
        simp [List.getLastD_eq_getLast?]
  · rintro ⟨several, isLast, name⟩
    have here : titles.getLastD start = i := by rw [List.getLastD_eq_getLast?, isLast]; rfl
    rw [here] at last
    have comma : ∃ comma, s.prev? i = some comma ∧ s.isKind comma .comma = true := by
      cases head with
      | untitled _ _ => cases isLast
      | @titled first rest _ _ _ more =>
        rw [List.getLastD_cons] at here
        rw [← here]
        refine more.prev?_last ?_
        rintro rfl
        simp at several
    obtain ⟨comma, link, separates⟩ := comma
    have noHead : headKeywords.any (s.prevIs i ·) = false := by
      simp [headKeywords, prevIs, link, isKind_eq_false separates]
    simp only [isResourceType, name, noHead, Bool.not_false, Bool.and_true, Bool.true_and]
    exact nextIs_eq_true_iff.mpr ⟨body, last, head.bodyAt.1.2⟩

end NodeHead

end TokenStream

namespace Layering

variable {s : TokenStream} {c : Conventions} {b : Block} {i : Nat}

/-! ### What is reported as declared -/

theorem reportsDeclaration_violation (ctx : FileContext) (rule : RuleInfo) (f : Finding) :
    (f.violation ctx rule).reportsDeclaration s b =
      f.opens s!"node '{b.title s}' declares " :=
  opens_violation ctx rule f _

theorem opens_declares_of_mem_nodeTitles {title : String} :
    ∀ f ∈ nodeTitles c s b, f.opens s!"node '{title}' declares " = false := by
  intro f member
  obtain ⟨j, -, found⟩ := List.mem_flatMap.mp member
  have start : "node '".toList <+: s!"node '{title}' declares ".toList := by simp [toString]
  cases regex : s.isKind j .regex with
  | true =>
    rw [nodeTitle_of_regex c regex] at found
    obtain ⟨problem, -, about⟩ := List.mem_flatMap.mp found
    have complaint := (mem_problemFindings c about).2.1
    have worded : "node regex must".toList <+: f.message.toList := by
      cases problem <;> exact List.IsPrefix.trans (by decide) complaint
    exact opens_eq_false worded (by decide) start
  | false =>
    rw [nodeTitle, regex, if_neg Bool.false_ne_true, List.mem_singleton] at found
    have worded : "node definition".toList <+: f.message.toList := by
      rw [found]
      simp [Finding.at, toString]
    exact opens_eq_false worded (by decide) start

theorem isResourceType_parts (resource : s.isResourceType i = true) :
    s.isKind i .name = true ∧ ∃ brace, s.next? i = some brace ∧ s.isKind brace .lbrace = true := by
  simp only [TokenStream.isResourceType, TokenStream.nextIs, Bool.and_eq_true,
    Option.any_eq_true] at resource
  exact resource.1

/-- Before a brace, the words that include a class do so. -/
theorem includedClass?_eq_none_iff (resource : s.isResourceType i = true) :
    s.includedClass? i = none ↔ s.text i ∉ includeWords := by
  obtain ⟨name, brace, link, opens⟩ := isResourceType_parts resource
  have arrow : s.isKind brace .farrow = false := TokenStream.isKind_eq_false opens (by decide)
  have paren : s.isKind brace .lparen = false := TokenStream.isKind_eq_false opens (by decide)
  simp [TokenStream.includedClass?, TokenStream.isInclude, name, link, arrow, paren]

theorem nodeStatement_of_isResourceType (title : String) (resource : s.isResourceType i = true)
    (word : s.text i ∉ includeWords) (given : s.nameAt i ∉ c.nodeAllowedResources) :
    nodeStatement c s title i = some (.at i s!"node '{title}' declares {s.nameAt i}") := by
  obtain ⟨name, brace, link, opens⟩ := isResourceType_parts resource
  have paren : s.isKind brace .lparen = false := TokenStream.isKind_eq_false opens (by decide)
  have noKeyword : s.isKind i .classKw = false := TokenStream.isKind_eq_false name (by decide)
  have noCall : s.isFunctionCall i = false := by
    simp [TokenStream.isFunctionCall, TokenStream.nextIs, link, paren]
  have noClass : s.declaredClass? i = none := by simp [TokenStream.declaredClass?, noKeyword]
  have noInclude := (includedClass?_eq_none_iff resource).mpr word
  have noLookup : s.isLookup i = false := by simp [TokenStream.isLookup, noCall]
  have noLegacy : s.isLegacyLookup i = false := by simp [TokenStream.isLegacyLookup, noCall]
  have listed : c.nodeAllowedResources.contains (s.nameAt i) = false := by
    simpa [List.contains_iff_mem] using given
  rw [nodeStatement, noLookup, noLegacy, noInclude, noClass]
  simp only [Bool.false_eq_true, if_false, resource, Bool.true_and]
  rw [TokenStream.nameAt] at listed
  rw [listed]
  rfl

/-- What a token declares in a node: a class, or a resource that no exception allows. -/
theorem nodeStatement_declares {title : String} {f : Finding}
    (found : nodeStatement c s title i = some f)
    (opens : f.opens s!"node '{title}' declares " = true) :
    (∃ target, s.declaredClass? i = some target ∧ f.site = .token target) ∨
      f.site = .token i ∧ s.isResourceType i = true ∧ s.nameAt i ∉ c.nodeAllowedResources ∧
        s.includedClass? i = none := by
  have other (wording : String) (worded : wording.toList <+: f.message.toList)
      (differ : ¬ "node '".toList <+: wording.toList ∧ ¬ wording.toList <+: "node '".toList) :
      False := by
    rw [opens_eq_false worded differ (by simp [toString])] at opens
    cases opens
  rw [nodeStatement] at found
  split at found
  · cases found
    exact (other "Found " (by simp [Finding.at, toString]) (by decide)).elim
  split at found
  · cases found
    exact (other "Found " (by simp [Finding.at, toString]) (by decide)).elim
  split at found
  · cases found
    simp [Finding.opens, Finding.at, toString] at opens
  next noInclude =>
    split at found
    next target declared =>
      cases found
      exact .inl ⟨target, declared, rfl⟩
    next =>
      dsimp only at found
      split at found
      next resource =>
        cases found
        rw [Bool.and_eq_true, Bool.not_eq_true', ← Bool.not_eq_true, List.contains_iff_mem] at resource
        exact .inr ⟨rfl, resource.1, resource.2, noInclude⟩
      · cases found

/-- A title that is taken for a declared resource: the last of several, if it is a bare name that no
exception allows. A word that includes a class is taken for an include statement instead. -/
structure MistakenTitle (c : Conventions) (s : TokenStream) (b : Block) (i : Nat) : Prop where
  several : 2 ≤ b.kind.titles.length
  last : b.kind.titles.getLast? = some i
  name : s.isKind i .name = true
  word : s.text i ∉ includeWords
  given : s.nameAt i ∉ c.nodeAllowedResources

section Head

variable {body : Nat} (isNode : s.IsNode b body)
  (head : s.NodeHead b.start b.kind.titles body)
include isNode head

theorem mistaken_or_behind {f : Finding} (member : f ∈ blockFindings c s b)
    (opens : f.opens s!"node '{b.title s}' declares " = true) :
    ∃ i, f.site = .token i ∧ (body < i ∨ MistakenTitle c s b i) := by
  have node : b.kind.isNode = true := by rw [isNode.kind]; rfl
  rw [blockFindings_of_isNode c node, List.mem_append] at member
  rcases member with inBody | titled
  · obtain ⟨i, listed, found⟩ := List.mem_filterMap.mp inBody
    have behind : b.start ≤ i := ((b.mem_positions s i).mp listed).2.1
    rcases nodeStatement_declares found opens with ⟨target, declared, site⟩ |
      ⟨site, resource, given, noInclude⟩
    · -- A class is named behind the brace of its declaration, and no brace stands in the head.
      simp only [TokenStream.declaredClass?, TokenStream.nextIs, Option.ite_none_right_eq_some,
        Bool.and_eq_true, Option.any_eq_true] at declared
      obtain ⟨⟨-, brace, link, opening⟩, named⟩ := declared
      rw [link, Option.bind_some] at named
      have after := TokenStream.lt_of_next? link
      have least := isNode.opens.2 ⟨Nat.lt_of_le_of_lt behind after, opening⟩
      exact ⟨target, site, .inl (Nat.lt_of_le_of_lt least (TokenStream.lt_of_next? named))⟩
    · refine ⟨i, site, (Nat.lt_or_ge body i).imp_right fun before => ?_⟩
      obtain ⟨several, last, name⟩ :=
        (head.isResourceType_iff isNode.keyword behind before).mp resource
      exact ⟨several, last, name, (includedClass?_eq_none_iff resource).mp noInclude, given⟩
  · rw [opens_declares_of_mem_nodeTitles f titled] at opens
    cases opens

theorem declared_of_mistaken (mistaken : MistakenTitle c s b i) :
    i < body ∧ ∃ f ∈ blockFindings c s b, f.site = .token i ∧
      f.opens s!"node '{b.title s}' declares " = true := by
  have node : b.kind.isNode = true := by rw [isNode.kind]; rfl
  have title := List.mem_of_getLast? mistaken.last
  have before : i < body := by
    rw [isNode.kind] at title
    have inside := List.mem_range'_1.mp (List.mem_filter.mp title).1
    omega
  have bounds := isNode.mem_titles title
  have resource := (head.isResourceType_iff isNode.keyword (Nat.le_of_lt bounds.1)
    (Nat.le_of_lt before)).mpr ⟨mistaken.several, mistaken.last, mistaken.name⟩
  have listed : i ∈ b.positions s := by
    have inside := TokenStream.lt_size_of_isKind mistaken.name
    rw [Block.mem_positions]
    omega
  have found := nodeStatement_of_isResourceType (b.title s) resource mistaken.word mistaken.given
  refine ⟨before, .at i s!"node '{b.title s}' declares {s.nameAt i}", ?_, rfl, ?_⟩
  · rw [blockFindings_of_isNode c node]
    exact List.mem_append_left _ (List.mem_filterMap.mpr ⟨i, listed, found⟩)
  · simp [Finding.opens, Finding.at, toString]

end Head

/-- Titles with commas between them are told from the body of their node, but for the last of
several: if it is a bare name that no exception allows, it is reported as a declared resource. What
else is reported as declared stands behind the brace that opens the body. -/
theorem declared_behind_brace_or_mistaken (c : Conventions) (path root : String) {s : TokenStream}
    {b : Block} (member : b ∈ s.nodes) {body : Nat}
    (head : s.NodeHead b.start b.kind.titles body) :
    let violations := (blockFindings c s b).map (Finding.violation (.ofStream path s root) info)
    (∀ v ∈ violations, v.reportsDeclaration s b = true →
      ∃ i, v.token = some i ∧ (body < i ∨ MistakenTitle c s b i)) ∧
    ∀ i, MistakenTitle c s b i →
      i < body ∧ ∃ v ∈ violations, v.token = some i ∧ v.reportsDeclaration s b = true := by
  obtain ⟨other, isNode⟩ := TokenStream.mem_nodes_iff.mp member
  obtain rfl : other = body := isNode.opens.unique head.bodyAt
  dsimp only
  refine ⟨fun v listed reported => ?_, fun i mistaken => ?_⟩
  · obtain ⟨f, found, rfl⟩ := List.mem_map.mp listed
    rw [reportsDeclaration_violation] at reported
    obtain ⟨i, site, place⟩ := mistaken_or_behind isNode head found reported
    exact ⟨i, by rw [token_violation, site]; rfl, place⟩
  · obtain ⟨before, f, found, site, opens⟩ := declared_of_mistaken isNode head mistaken
    refine ⟨before, _, List.mem_map_of_mem found, ?_, ?_⟩
    · rw [token_violation, site]
      rfl
    · rw [reportsDeclaration_violation]
      exact opens

/-- `node /^a/, b { class { c: } }`, by its last title. -/
def nodeTitled (last : Token) : TokenStream :=
  .ofList [.new .nodeKw "node" 1 1, .new .regex "^a" 1 6, .new .comma "," 1 10, last,
    .new .lbrace "\x7b" 1 14, .new .classKw "class" 1 16, .new .lbrace "\x7b" 1 22,
    .new .name "c" 1 24, .new .colon ":" 1 25, .new .rbrace "\x7d" 1 27,
    .new .rbrace "\x7d" 1 29]

/-- The node of `nodeTitled`. -/
def titledNode : Block := ⟨0, 10, .node [1, 3]⟩

theorem nodeHead_nodeTitled {kind : TokenKind} (isTitle : kind ∈ [.string, .quoted, .name, .regex])
    (text : String) : (nodeTitled (.new kind text 1 12)).NodeHead 0 [1, 3] 4 := by
  have links (i : Nat) : (nodeTitled (.new kind text 1 12)).next? i = some (i + 1) →
      (nodeTitled (.new kind text 1 12)).CodeAfter i (i + 1) := TokenStream.next?_eq_some_iff.mp
  simp only [List.mem_cons, List.not_mem_nil, or_false] at isTitle
  rcases isTitle with rfl | rfl | rfl | rfl <;>
    exact .titled (links 0 rfl) rfl (.comma (links 1 rfl) rfl (links 2 rfl) rfl
      (.done (links 3 rfl) rfl))

theorem declared_behind_brace_or_mistaken_of_bareName :
    let s := nodeTitled (.new .name "b" 1 12)
    let violations := (blockFindings {} s titledNode).map
      (Finding.violation (.ofStream "site.pp" s ".") info)
    (titledNode ∈ s.nodes ∧ s.NodeHead 0 [1, 3] 4) ∧
      (∃ v ∈ violations, v.token = some 3 ∧ v.reportsDeclaration s titledNode = true) ∧
      ∀ v ∈ violations, v.reportsDeclaration s titledNode = true →
        ∃ i, v.token = some i ∧ (4 < i ∨ i = 3) := by
  intro s violations
  have member : titledNode ∈ s.nodes := by decide +kernel
  have head : s.NodeHead titledNode.start titledNode.kind.titles 4 :=
    nodeHead_nodeTitled (by decide) "b"
  obtain ⟨placed, mistaken⟩ := declared_behind_brace_or_mistaken {} "site.pp" "." member head
  have bare : MistakenTitle {} s titledNode 3 :=
    ⟨by decide, rfl, rfl, by decide +kernel, by decide +kernel⟩
  refine ⟨⟨member, head⟩, (mistaken 3 bare).2, fun v listed reported => ?_⟩
  obtain ⟨i, token, behind | last⟩ := placed v listed reported
  · exact ⟨i, token, .inl behind⟩
  · exact ⟨i, token, .inr (Option.some.inj last.last).symm⟩

/-- A title that stands before the brace, and is neither a word that includes a class nor a call, is
reported as a declared resource. -/
theorem exists_title_declared :
    ∃ (s : TokenStream) (b : Block) (body i : Nat), b ∈ s.nodes ∧
      s.NodeHead b.start b.kind.titles body ∧
      (∀ title ∈ b.kind.titles, s.text title ∉ includeWords ∧ s.isFunctionCall title = false) ∧
      i ∈ b.kind.titles ∧ i < body ∧
      ∃ v ∈ (blockFindings {} s b).map (Finding.violation (.ofStream "site.pp" s ".") info),
        v.token = some i ∧ v.reportsDeclaration s b = true :=
  ⟨nodeTitled (.new .name "b" 1 12), titledNode, 4, 3, by decide +kernel,
    nodeHead_nodeTitled (by decide) "b", by decide +kernel⟩

end Layering

end ManifestLint
