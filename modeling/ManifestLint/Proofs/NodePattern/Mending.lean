import ManifestLint.NodePattern.Repair
import ManifestLint.Proofs.NodePattern.Domain

/-!
# Mending a node pattern

The repairs a pattern needs are chosen on its text as it is, and then applied one after the other,
each to what the ones before have left. Main statement: whatever the text, the mended one needs no
repair. A domain that stands elsewhere than at the end outlives its repair, and
`domainIn?_settle_eq_none_iff` says exactly when none does.
-/
namespace ManifestLint

/-- Applies repairs one after the other. -/
def NodePattern.mend (domains : List String) (repairs : List Repair) (text : String) : String :=
  repairs.foldl (fun text repair => repair.apply domains text) text

/-- The repairs a pattern needs: an anchor where there is none at the start, no anchor at the end,
and no domain where stripping would change something. -/
def NodePattern.wanted (domains : List String) (text : String) : List Repair :=
  let body := (NodePattern.split text.toList).2
  (if NodePattern.isStartAnchored body then [] else [.anchorStart]) ++
    (if NodePattern.isEndAnchored body = false then [] else [.dropEndAnchor]) ++
    (if NodePattern.domainIn? domains body = none ∨ NodePattern.stripDomains domains body = body
      then [] else [.stripDomain])

/-- What mending makes of a body. -/
def NodePattern.settle (domains : List String) (body : List Char) : List Char :=
  let anchored := NodePattern.dropEndAnchors (NodePattern.anchorStart body)
  if NodePattern.domainIn? domains body = none then anchored
  else NodePattern.stripDomains domains anchored

namespace NodePattern

variable {domains : List String}

/-! ### Texts and bodies -/

/-- A body is found again between its slashes, or without them unless it begins with one. -/
theorem split_join_of_framed {delimited : Bool} {body : List Char}
    (framed : delimited = true ∨ body.head? ≠ some '/') :
    split (join delimited body) = (delimited, body) := by
  cases delimited with
  | true =>
    rw [join, if_pos rfl, split, if_pos (by simp)]
    simp
  | false =>
    have plain : body.head? ≠ some '/' := framed.resolve_left Bool.false_ne_true
    rw [join, if_neg Bool.false_ne_true, split]
    rintro rest rfl
    exact plain rfl

theorem framed_of_isStartAnchored {body : List Char} (start : isStartAnchored body = true)
    (delimited : Bool) : delimited = true ∨ body.head? ≠ some '/' := by
  -- The anchor is no slash, so nothing is taken off.
  obtain ⟨rest, rfl⟩ := isStartAnchored_iff.mp start
  simp

theorem split_join {body : List Char} (start : isStartAnchored body = true) (delimited : Bool) :
    split (join delimited body) = (delimited, body) :=
  split_join_of_framed (framed_of_isStartAnchored start delimited)

theorem join_injective (delimited : Bool) {first second : List Char}
    (same : join delimited first = join delimited second) : first = second := by
  cases delimited with
  | true => simpa [join] using same
  | false => exact same

theorem apply_eq (repair : Repair) (text : String) :
    repair.apply domains text =
      String.ofList (join (split text.toList).1 (repair.applyBody domains (split text.toList).2)) :=
  rfl

theorem ofList_join_split (text : String) :
    String.ofList (join (split text.toList).1 (split text.toList).2) = text := by
  rw [join_split, String.ofList_toList]

/-- A repair that leaves the body as it is leaves the text as it is, and the other way round. -/
theorem apply_eq_self_iff (domains : List String) (repair : Repair) (text : String) :
    repair.apply domains text = text ↔
      repair.applyBody domains (split text.toList).2 = (split text.toList).2 := by
  constructor
  · intro same
    apply join_injective (split text.toList).1
    apply String.ofList_injective
    rw [← apply_eq, same, ofList_join_split]
  · intro same
    rw [apply_eq, same, ofList_join_split]

theorem apply_join_of_framed {delimited : Bool} {body : List Char}
    (framed : delimited = true ∨ body.head? ≠ some '/') (repair : Repair) :
    repair.apply domains (String.ofList (join delimited body)) =
      String.ofList (join delimited (repair.applyBody domains body)) := by
  rw [apply_eq, String.toList_ofList, split_join_of_framed framed]

theorem apply_join {body : List Char} (start : isStartAnchored body = true) (delimited : Bool)
    (repair : Repair) :
    repair.apply domains (String.ofList (join delimited body)) =
      String.ofList (join delimited (repair.applyBody domains body)) :=
  apply_join_of_framed (framed_of_isStartAnchored start delimited) repair

/-! ### Mending settles a body -/

theorem mend_append (first second : List Repair) (text : String) :
    mend domains (first ++ second) text = mend domains second (mend domains first text) :=
  List.foldl_append

/-- A repair that is left out only where it changes nothing might as well be applied. -/
theorem mend_ite (domains : List String) {body : List Char} (start : isStartAnchored body = true)
    (delimited : Bool) (repair : Repair) (p : Prop) [Decidable p]
    (idle : p → repair.applyBody domains body = body) :
    mend domains (if p then [] else [repair]) (String.ofList (join delimited body)) =
      String.ofList (join delimited (repair.applyBody domains body)) := by
  split
  next holds =>
    rw [idle holds]
    rfl
  · exact apply_join start delimited repair

theorem mend_anchorStart (text : String) :
    mend domains
        (if isStartAnchored (split text.toList).2 then [] else [Repair.anchorStart]) text =
      String.ofList (join (split text.toList).1 (anchorStart (split text.toList).2)) := by
  split
  next start =>
    rw [anchorStart_of_anchored start, ofList_join_split]
    rfl
  · rfl

/-- Anchors make no difference to whether there is something to strip. -/
theorem stripOnce?_anchors (plain : PlainDomains domains) (body : List Char) :
    stripOnce? domains (dropEndAnchors (anchorStart body)) = none ↔
      stripOnce? domains body = none := by
  rw [stripOnce?_dropEndAnchors]
  cases start : isStartAnchored body with
  | true => rw [anchorStart_of_anchored start]
  | false =>
    rw [anchorStart_of_not_anchored start, stripOnce?_caret_cons plain start,
      Option.map_eq_none_iff]

/-- Where stripping a body changes nothing, it changes nothing once the anchors are right. -/
theorem settle_of_stripDomains_eq (plain : PlainDomains domains) {body : List Char}
    (idle : stripDomains domains body = body) :
    settle domains body = dropEndAnchors (anchorStart body) := by
  have none := (stripOnce?_anchors plain body).mpr ((stripDomains_eq_self_iff plain.named).mp idle)
  rw [settle]
  split
  · rfl
  · exact stripDomains_of_none none

/-- The repairs that are wanted turn the body of a pattern into the settled one. -/
theorem mend_wanted (plain : PlainDomains domains) (text : String) :
    mend domains (wanted domains text) text =
      String.ofList (join (split text.toList).1 (settle domains (split text.toList).2)) := by
  rw [wanted, mend_append, mend_append, mend_anchorStart]
  generalize split text.toList = parts
  obtain ⟨delimited, body⟩ := parts
  have start := isStartAnchored_anchorStart body
  have started : isStartAnchored (dropEndAnchors (anchorStart body)) = true := by
    rw [dropEndAnchors_anchorStart]
    exact isStartAnchored_anchorStart _
  -- The end anchors of the anchored body are those of the body.
  have ends := mend_ite domains start delimited .dropEndAnchor
    (isEndAnchored body = false) fun free => by
      show dropEndAnchors (anchorStart body) = anchorStart body
      rw [dropEndAnchors_anchorStart, dropEndAnchors_of_not_anchored free]
  rw [ends, Repair.applyBody]
  -- The repair of the domain was chosen on the body as it was, so that is what is split on.
  by_cases absent : domainIn? domains body = none
  · rw [if_pos (Or.inl absent), settle, if_pos absent]
    rfl
  · by_cases idle : stripDomains domains body = body
    · rw [if_pos (Or.inr idle), settle_of_stripDomains_eq plain idle]
      rfl
    · rw [if_neg (not_or.mpr ⟨absent, idle⟩), settle, if_neg absent]
      exact apply_join started delimited .stripDomain

theorem stripDomain_mem_wanted_iff {text : String} :
    Repair.stripDomain ∈ wanted domains text ↔
      domainIn? domains (split text.toList).2 ≠ none ∧
        stripDomains domains (split text.toList).2 ≠ (split text.toList).2 := by
  rw [wanted, ← not_or]
  split <;> split <;> split <;> simp_all

/-! ### A settled body needs no repair -/

theorem isStartAnchored_settle (plain : PlainDomains domains) (body : List Char) :
    isStartAnchored (settle domains body) = true := by
  have start : isStartAnchored (dropEndAnchors (anchorStart body)) = true := by
    rw [dropEndAnchors_anchorStart]
    exact isStartAnchored_anchorStart _
  rw [settle]
  split
  · exact start
  · exact isStartAnchored_stripDomains plain start

theorem isEndAnchored_settle (plain : PlainDomains domains) (body : List Char) :
    isEndAnchored (settle domains body) = false := by
  rw [settle]
  split
  · exact isEndAnchored_dropEndAnchors _
  · rw [stripDomains_dropEndAnchors plain.named]
    exact isEndAnchored_dropEndAnchors _

theorem domain_settle (plain : PlainDomains domains) (body : List Char) :
    domainIn? domains (settle domains body) = none ∨
      stripDomains domains (settle domains body) = settle domains body := by
  rw [settle]
  split
  next absent =>
    left
    rw [dropEndAnchors_anchorStart, domainIn?_anchorStart plain]
    exact domainIn?_eq_none_of_isPrefix plain (dropEndAnchors_isPrefix body) absent
  next found =>
    right
    exact stripDomains_of_none (stripOnce?_stripDomains plain.named _)

/-- Mending is complete after one round: a mended pattern needs no repair, although the repairs were
chosen on the text before any of them was applied. -/
theorem wanted_mend_wanted (plain : PlainDomains domains) (text : String) :
    wanted domains (mend domains (wanted domains text) text) = [] := by
  have start := isStartAnchored_settle plain (split text.toList).2
  rw [mend_wanted plain, wanted, String.toList_ofList, split_join start]
  simp only [start, isEndAnchored_settle plain, domain_settle plain, if_true, List.append_nil]

/-- Every occurrence of a domain in a body reaches into the end that stripping drops. -/
def StripsEveryDomain (domains : List String) (body : List Char) : Prop :=
  ∀ domain ∈ domains, ∀ spelling ∈ spellings domain, ∀ offset ∈ offsets spelling 0 0 body,
    startsSegment (body.take offset) = true →
      (stripDomains domains body).length < offset + spelling.length

instance (domains : List String) (body : List Char) :
    Decidable (StripsEveryDomain domains body) :=
  inferInstanceAs (Decidable (∀ domain ∈ domains, ∀ spelling ∈ spellings domain,
    ∀ offset ∈ offsets spelling 0 0 body, _))

theorem domainIn?_settle_eq_none_iff (plain : PlainDomains domains) {body : List Char}
    (found : domainIn? domains body ≠ none) (changed : stripDomains domains body ≠ body) :
    domainIn? domains (settle domains body) = none ↔ StripsEveryDomain domains body := by
  have free := isEndAnchored_of_startsSegment (startsSegment_stripDomains plain.named changed)
  have settled : settle domains body = anchorStart (stripDomains domains body) := by
    rw [settle, if_neg found, dropEndAnchors_anchorStart, stripDomains_anchorStart plain,
      stripDomains_dropEndAnchors plain.named, dropEndAnchors_of_not_anchored free]
  -- But for the anchor, what is left begins the body.
  rw [settled, domainIn?_anchorStart plain]
  exact domainIn?_prefix_eq_none_iff plain (stripDomains_isPrefix plain.named body)

end NodePattern

end ManifestLint
