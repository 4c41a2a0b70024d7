import ManifestLint.Proofs.NodePattern.Atom
import ManifestLint.Proofs.NodePattern.Mending

/-!
# Normal node patterns

Normalizing applies every repair once. The result keeps the conventions for node patterns, is made
of the first atoms of the text it comes from, and is normal: normalizing it again changes nothing.
The three repairs commute on bodies. On texts they do so where a repair cannot change how slashes
are read, and then any order of them normalizes.
-/
namespace ManifestLint.NodePattern

/-- A body that keeps the conventions: it is anchored at the start and not at the end, and no
domain stands at its end in a whole number of segments. -/
structure Conventional (domains : List String) (body : List Char) : Prop where
  start : body.head? = some '^'
  finish : (atoms body).getLast? ≠ some ['$']
  domain : ∀ domain ∈ domains, ∀ spelling ∈ spellings domain, ∀ before,
    body = before ++ spelling → startsSegment before = false

/-- What normalizing makes of a body. -/
def normalBody (domains : List String) (body : List Char) : List Char :=
  stripDomains domains (dropEndAnchors (anchorStart body))

variable {domains : List String}

/-! ### Repairs in any order -/

theorem split_of_not_delimited {text : List Char} (bare : (split text).1 = false) :
    (split text).2 = text := by
  have whole := join_split text
  rwa [bare, join, if_neg Bool.false_ne_true] at whole

theorem framed_applyBody (named : "" ∉ domains) (repair : Repair) {delimited : Bool}
    {body : List Char} (framed : delimited = true ∨ body.head? ≠ some '/') :
    delimited = true ∨ (repair.applyBody domains body).head? ≠ some '/' := by
  -- A beginning of a body begins like the body, if it begins at all.
  have shortened {part : List Char} (begins : part <+: body) :
      delimited = true ∨ part.head? ≠ some '/' := by
    refine framed.imp_right fun other => ?_
    obtain ⟨rest, rfl⟩ := begins
    cases part with
    | nil => simp
    | cons c part => exact other
  cases repair with
  | anchorStart => exact framed_of_isStartAnchored (isStartAnchored_anchorStart body) delimited
  | dropEndAnchor => exact shortened (dropEndAnchors_isPrefix body)
  | stripDomain => exact shortened (stripDomains_isPrefix named body)

/-- Where slashes are read the same after every repair, repairs of a text are repairs of its body.
-/
theorem mend_join (named : "" ∉ domains) (repairs : List Repair) {delimited : Bool}
    {body : List Char} (framed : delimited = true ∨ body.head? ≠ some '/') :
    mend domains repairs (String.ofList (join delimited body)) =
      String.ofList (join delimited
        (repairs.foldl (fun body repair => repair.applyBody domains body) body)) := by
  induction repairs generalizing body with
  | nil => rfl
  | cons repair repairs ih =>
    rw [List.foldl_cons, ← ih (framed_applyBody named repair framed), mend, List.foldl_cons,
      apply_join_of_framed framed]
    rfl

theorem applyBody_comm (plain : PlainDomains domains) (first second : Repair) (body : List Char) :
    second.applyBody domains (first.applyBody domains body) =
      first.applyBody domains (second.applyBody domains body) := by
  have anchors := dropEndAnchors_anchorStart body
  have start := stripDomains_anchorStart plain body
  have finish := stripDomains_dropEndAnchors plain.named body
  cases first <;> cases second <;> simp [Repair.applyBody, anchors, start, finish]

theorem mend_perm (plain : PlainDomains domains) {text : String}
    (framed : (split text.toList).1 = true ∨ text.toList.head? ≠ some '/')
    {first second : List Repair} (perm : first.Perm second) :
    mend domains first text = mend domains second text := by
  have bodyFramed : (split text.toList).1 = true ∨ (split text.toList).2.head? ≠ some '/' := by
    cases bare : (split text.toList).1 with
    | true => exact Or.inl rfl
    | false =>
      rw [split_of_not_delimited bare]
      exact Or.inr (framed.resolve_left (by simp [bare]))
  rw [← ofList_join_split text, mend_join plain.named first bodyFramed,
    mend_join plain.named second bodyFramed,
    perm.foldl_eq' fun one _ other _ body => applyBody_comm plain one other body]

/-- The repairs can be made in any order. A text that begins with a slash has to end with one as
well, or a repair could make a closing slash out of one that was none. -/
theorem mend_eq_normalize_of_perm (plain : PlainDomains domains) {text : String}
    (framed : (split text.toList).1 = true ∨ text.toList.head? ≠ some '/')
    {order : List Repair} (perm : order.Perm Repair.all) :
    mend domains order text = normalize domains text :=
  mend_perm plain framed perm

/-- Stripping comes first and leaves the other repairs something to do: the anchor at the end goes
with the domain, and the anchor at the start is put before what is left. -/
theorem mend_eq_normalize_of_stripping_first :
    PlainDomains ["wmnet"] ∧
      (split "/a\\.wmnet$/".toList).1 = true ∧
      [Repair.stripDomain, .dropEndAnchor, .anchorStart].Perm Repair.all ∧
      mend ["wmnet"] [.stripDomain, .dropEndAnchor, .anchorStart] "/a\\.wmnet$/" = "/^a\\./" ∧
      normalize ["wmnet"] "/a\\.wmnet$/" = "/^a\\./" := by
  have plain : PlainDomains ["wmnet"] := by decide
  have delimited : (split "/a\\.wmnet$/".toList).1 = true := by decide
  have perm : [Repair.stripDomain, .dropEndAnchor, .anchorStart].Perm Repair.all := by decide
  have normal : normalize ["wmnet"] "/a\\.wmnet$/" = "/^a\\./" := by decide +kernel
  exact ⟨plain, delimited, perm,
    (mend_eq_normalize_of_perm plain (Or.inl delimited) perm).trans normal, normal⟩

/-! ### The normal form -/

theorem isStartAnchored_anchored (body : List Char) :
    isStartAnchored (dropEndAnchors (anchorStart body)) = true := by
  rw [dropEndAnchors_anchorStart]
  exact isStartAnchored_anchorStart _

theorem isStartAnchored_normalBody (plain : PlainDomains domains) (body : List Char) :
    isStartAnchored (normalBody domains body) = true :=
  isStartAnchored_stripDomains plain (isStartAnchored_anchored body)

/-- Normalizing keeps the slashes, whatever the text: the start is anchored first, and an anchor is
no slash. -/
theorem normalize_eq (plain : PlainDomains domains) (text : String) :
    normalize domains text =
      String.ofList (join (split text.toList).1 (normalBody domains (split text.toList).2)) := by
  have anchored : normalize domains text = mend domains [.dropEndAnchor, .stripDomain]
      (String.ofList (join (split text.toList).1 (anchorStart (split text.toList).2))) := by
    rw [normalize, Repair.all, List.foldl_cons, apply_eq, mend, Repair.applyBody]
  have framed := framed_of_isStartAnchored (isStartAnchored_anchorStart (split text.toList).2)
    (split text.toList).1
  rw [anchored, mend_join plain.named _ framed]
  rfl

theorem split_normalize (plain : PlainDomains domains) (text : String) :
    split (normalize domains text).toList =
      ((split text.toList).1, normalBody domains (split text.toList).2) := by
  rw [normalize_eq plain, String.toList_ofList,
    split_join (isStartAnchored_normalBody plain (split text.toList).2)]

theorem isEndAnchored_normalBody (plain : PlainDomains domains) (body : List Char) :
    isEndAnchored (normalBody domains body) = false := by
  rw [normalBody, stripDomains_dropEndAnchors plain.named]
  exact isEndAnchored_dropEndAnchors _

theorem conventional_normalBody (plain : PlainDomains domains) (body : List Char) :
    Conventional domains (normalBody domains body) where
  start := beq_iff_eq.mp (isStartAnchored_normalBody plain body)
  finish := by
    rw [Ne, ← isEndAnchored_iff, isEndAnchored_normalBody plain]
    exact Bool.false_ne_true
  domain := by
    intro domain listed spelling spelled before ends
    rw [← Bool.not_eq_true]
    intro starts
    -- Stripping stops only when no round finds such an ending.
    have stopped := stripOnce?_stripDomains plain.named (dropEndAnchors (anchorStart body))
    change stripOnce? domains (normalBody domains body) = none at stopped
    rw [stripOnce?, List.findSome?_eq_none_iff] at stopped
    have missed := stopped spelling (List.mem_flatMap.mpr ⟨domain, listed, spelled⟩)
    rw [dropEndAnchors_of_not_anchored (isEndAnchored_normalBody plain body),
      dropEnding?_eq_some_iff.mpr ends] at missed
    simp [starts] at missed

theorem normalBody_of_conventional {body : List Char} (conventional : Conventional domains body) :
    normalBody domains body = body := by
  have start : isStartAnchored body = true := beq_iff_eq.mpr conventional.start
  have free : isEndAnchored body = false := by
    rw [← Bool.not_eq_true, isEndAnchored_iff]
    exact conventional.finish
  rw [normalBody, anchorStart_of_anchored start, dropEndAnchors_of_not_anchored free]
  apply stripDomains_of_none
  cases stripped : stripOnce? domains body with
  | none => rfl
  | some before =>
    obtain ⟨domain, listed, spelling, spelled, equal, starts⟩ :=
      exists_of_stripOnce?_eq_some stripped
    rw [dropEndAnchors_of_not_anchored free] at equal
    rw [conventional.domain domain listed spelling spelled before equal] at starts
    cases starts

theorem atoms_normalBody_isPrefix (plain : PlainDomains domains) (body : List Char) :
    atoms (normalBody domains body) <+: atoms (anchorStart body) :=
  (atoms_stripDomains_isPrefix plain.named _).trans (atoms_dropEndAnchors_isPrefix _)

/-- Normalizing a pattern keeps its slashes and gives its body the conventional form. It keeps the
first atoms of the body, with an anchor before them if there was none, so no escape is cut in two.
Once is enough. -/
theorem normalize_establishes_conventions (plain : PlainDomains domains) (text : String) :
    (split (normalize domains text).toList).1 = (split text.toList).1 ∧
      Conventional domains (split (normalize domains text).toList).2 ∧
      atoms (split (normalize domains text).toList).2 <+:
        (if (split text.toList).2.head? = some '^' then [] else [['^']]) ++
          atoms (split text.toList).2 ∧
      normalize domains (normalize domains text) = normalize domains text := by
  have conventional := conventional_normalBody plain (split text.toList).2
  rw [split_normalize plain]
  refine ⟨rfl, conventional, ?_, ?_⟩
  · have kept := atoms_normalBody_isPrefix plain (split text.toList).2
    rw [atoms_anchorStart] at kept
    by_cases start : (split text.toList).2.head? = some '^'
    · simpa [isStartAnchored, start] using kept
    · simpa [isStartAnchored, start] using kept
  · rw [normalize_eq plain (normalize domains text), split_normalize plain,
      normalBody_of_conventional conventional, ← normalize_eq plain]

/-- Two domains and two anchors at the end go one after the other, and the escaped backslash before
them keeps the one that escapes it. -/
theorem normalize_establishes_conventions_of_escapes :
    normalize ["wmnet", "eqiad."] "/db\\\\.eqiad.wmnet$$/" = "/^db\\\\./" ∧
      Conventional ["wmnet", "eqiad."] "^db\\\\.".toList ∧
      atoms "^db\\\\.".toList <+: [['^']] ++ atoms "db\\\\.eqiad.wmnet$$".toList ∧
      normalize ["wmnet", "eqiad."] "/^db\\\\./" = "/^db\\\\./" := by
  have normal : normalize ["wmnet", "eqiad."] "/db\\\\.eqiad.wmnet$$/" = "/^db\\\\./" := by
    decide +kernel
  have plain : PlainDomains ["wmnet", "eqiad."] := by decide
  have all := normalize_establishes_conventions plain "/db\\\\.eqiad.wmnet$$/"
  rw [normal] at all
  obtain ⟨_, conventional, kept, again⟩ := all
  exact ⟨normal, conventional, kept, again⟩

end ManifestLint.NodePattern
