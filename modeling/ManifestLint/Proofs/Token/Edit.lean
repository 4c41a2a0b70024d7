import ManifestLint.Block.Index

/-!
# What an edit leaves as it is

An edit replaces the text of one token. Kinds stay, and with them everything that is found by kinds
alone: neighbours, calls, declarations, nodes and definitions.
-/
namespace ManifestLint.TokenStream

variable {s t : TokenStream}

/-! ### The token that is edited, and the others -/

theorem token?_of_edit? {edit : Edit} (edited : s.edit? edit = some t) (i : Nat) :
    t.token? i = (s.token? i).map fun token =>
      if i = edit.token then { token with text := edit.newText } else token := by
  rw [edit?] at edited
  split at edited
  next inside =>
    cases edited
    by_cases same : edit.token = i
    · subst same
      simp [token?, inside]
    · have other : i ≠ edit.token := fun equal => same equal.symm
      simp [token?, same, other]
  · cases edited

theorem kinds_of_edit? {edit : Edit} (edited : s.edit? edit = some t) : t.kinds = s.kinds := by
  rw [edit?] at edited
  split at edited
  next inside =>
    cases edited
    exact kinds_set_text s.tokens edit.token inside edit.newText
  · cases edited

/-! ### Edits one after the other -/

/-- A stream after some edits. One that names no token is passed over. -/
def applyEdits (s : TokenStream) (edits : List Edit) : TokenStream :=
  edits.foldl (fun s edit => (s.edit? edit).getD s) s

theorem kinds_getD_edit? (s : TokenStream) (edit : Edit) :
    ((s.edit? edit).getD s).kinds = s.kinds := by
  cases edited : s.edit? edit with
  | none => rfl
  | some t => exact kinds_of_edit? edited

theorem kinds_applyEdits (s : TokenStream) (edits : List Edit) :
    (s.applyEdits edits).kinds = s.kinds := by
  induction edits generalizing s with
  | nil => rfl
  | cons edit edits ih =>
    have later := ih ((s.edit? edit).getD s)
    exact later.trans (kinds_getD_edit? s edit)

/-! ### What kinds decide -/

theorem length_kinds (s : TokenStream) : s.kinds.length = s.size := by
  rw [kinds, List.length_map, Array.length_toList, size]

theorem kind?_eq (s : TokenStream) (i : Nat) : s.kind? i = s.kinds[i]? := by
  rw [kind?, token?, kinds, List.getElem?_map, Array.getElem?_toList]

section SameKinds

variable (same : s.kinds = t.kinds)
include same

theorem size_congr : s.size = t.size := by
  rw [← length_kinds, ← length_kinds, same]

theorem isKind_congr : s.isKind = t.isKind := by
  funext i kind
  rw [isKind, isKind, kind?_eq, kind?_eq, same]

theorem next_congr : s.next = t.next := by
  rw [s.next_eq, t.next_eq]
  exact congrArg Links.next same

theorem prev_congr : s.prev = t.prev := by
  rw [s.prev_eq, t.prev_eq]
  exact congrArg Links.prev same

theorem next?_congr : s.next? = t.next? := by
  funext i
  rw [next?, next?, next_congr same]

theorem prev?_congr : s.prev? = t.prev? := by
  funext i
  rw [prev?, prev?, prev_congr same]

theorem nextIs_congr : s.nextIs = t.nextIs := by
  funext i kind
  rw [nextIs, nextIs, next?_congr same, isKind_congr same]

theorem prevIs_congr : s.prevIs = t.prevIs := by
  funext i kind
  rw [prevIs, prevIs, prev?_congr same, isKind_congr same]

theorem isFunctionCall_congr : s.isFunctionCall = t.isFunctionCall := by
  funext i
  rw [isFunctionCall, isFunctionCall, isKind_congr same, nextIs_congr same]

theorem declaredClass?_congr : s.declaredClass? = t.declaredClass? := by
  funext i
  rw [declaredClass?, declaredClass?, isKind_congr same, nextIs_congr same, next?_congr same]

theorem isResourceType_congr : s.isResourceType = t.isResourceType := by
  funext i
  rw [isResourceType, isResourceType, isKind_congr same, nextIs_congr same, prevIs_congr same]

theorem isNodeTitle_congr : s.isNodeTitle = t.isNodeTitle := by
  funext i
  simp only [isNodeTitle, isKind_congr same]

theorem nodes_congr : s.nodes = t.nodes := by
  -- A step of the scan looks at kinds and at the size, never at a text.
  have step : s.scanNode = t.scanNode := by
    funext scan i
    simp only [scanNode, titlesBetween, Span.positions, isNodeTitle_congr same,
      isKind_congr same, size_congr same]
  rw [nodes, nodes, step, size_congr same]

theorem after_congr : s.after = t.after := by
  funext i
  rw [after, after, size_congr same]

theorem closing?_congr (opener closer : TokenKind) :
    s.closing? opener closer = t.closing? opener closer := by
  -- The depth follows the kinds, so both walks end at the same token.
  have balance (positions : List Nat) (depth : Nat) :
      s.balance? opener closer depth positions = t.balance? opener closer depth positions := by
    induction positions generalizing depth with
    | nil => rfl
    | cons position rest ih => simp only [balance?, isKind_congr same, ih]
  funext i
  rw [closing?, closing?, after_congr same, balance]

theorem parameterList?_congr : s.parameterList? = t.parameterList? := by
  funext name
  rw [parameterList?, parameterList?, next?_congr same, isKind_congr same, closing?_congr same]

theorem definitions_congr : s.definitions = t.definitions := by
  have each : s.definition? = t.definition? := by
    funext i
    rw [definition?, definition?, isKind_congr same, next?_congr same, parameterList?_congr same,
      after_congr same, closing?_congr same]
  rw [definitions, definitions, each, size_congr same]

end SameKinds

end ManifestLint.TokenStream
