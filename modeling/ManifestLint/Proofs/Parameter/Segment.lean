import Mathlib.Data.List.Infix
import ManifestLint.Parameter
import ManifestLint.Proofs.Token.Links

/-!
# The segments of a parameter list

A parameter list falls into segments at the commas that stand outside the brackets opened behind the
first equals sign of their segment. Variables before that sign declare names; what follows it is the
value of the last name declared there. The final value of a name is that of the last segment that
gives it one.
-/
namespace ManifestLint

namespace TokenStream

variable (s : TokenStream)

/-! ### Segments -/

/-- The code tokens among positions, up to the first position that holds no token. -/
def codeOf (positions : List Nat) : List Nat :=
  (positions.takeWhile (· < s.size)).filter s.isCode

/-- What precedes the first equals sign. -/
def header (segment : List Nat) : List Nat := segment.takeWhile fun i => !s.isKind i .equals

/-- What follows the first equals sign, if there is one. -/
def value? (segment : List Nat) : Option (List Nat) :=
  (segment.dropWhile fun i => !s.isKind i .equals).tail?

def opensBracket (i : Nat) : Bool := [TokenKind.lparen, .lbrack, .lbrace].any (s.isKind i)

def closesBracket (i : Nat) : Bool := [TokenKind.rparen, .rbrack, .rbrace].any (s.isKind i)

/-- Whether a bracket that is opened among tokens is still open behind them: from some token on, more
brackets are opened than closed. A closing bracket that matches none is of no account. -/
def leavesOpen (tokens : List Nat) : Bool :=
  tokens.tails.any fun tail => tail.countP s.closesBracket < tail.countP s.opensBracket

/-- The segments of code tokens behind the part of the first segment that has been read. -/
def segmentsFrom (segment : List Nat) : List Nat → List (List Nat)
  | [] => [segment]
  | i :: rest =>
    if s.isKind i .comma && !s.leavesOpen ((s.value? segment).getD []) then
      segment :: segmentsFrom [] rest
    else segmentsFrom (segment ++ [i]) rest

/-- The segments of a parameter list. -/
def segments (positions : List Nat) : List (List Nat) := s.segmentsFrom [] (s.codeOf positions)

/-! ### Names and values -/

/-- The variables in the header of a segment. -/
def declaredIn (segment : List Nat) : List Nat := (s.header segment).filter (s.isKind · .variable)

/-- The name of the variable at a position. -/
def variableName (i : Nat) : String := Parameter.nameOf (s.text i)

/-- The name a segment gives its value to, that of the last variable in its header. -/
def owner? (segment : List Nat) : Option String :=
  (s.declaredIn segment).getLast?.map s.variableName

/-- The value that the last segment with a value for a name gives it; empty if there is none. -/
def finalValue (segments : List (List Nat)) (name : String) : List Nat :=
  ((segments.filter (s.owner? · == some name)).filterMap s.value?).getLast?.getD []

variable {s} {segment : List Nat} {i : Nat}

/-! ### One token more -/

theorem isKind_of_token? {token : Token} (here : s.token? i = some token) (kind : TokenKind) :
    s.isKind i kind = (token.kind == kind) := by
  rw [isKind, kind?, here]
  rfl

theorem value?_concat (segment : List Nat) (i : Nat) :
    s.value? (segment ++ [i]) =
      match s.value? segment with
      | some value => some (value ++ [i])
      | none => if s.isKind i .equals then some [] else none := by
  rw [value?, value?, List.dropWhile_append]
  cases behind : segment.dropWhile fun j => !s.isKind j .equals with
  | nil => cases equals : s.isKind i .equals <;> simp [equals]
  | cons sign value => simp

theorem header_concat (segment : List Nat) (i : Nat) :
    s.header (segment ++ [i]) =
      s.header segment ++ if (s.value? segment).isNone && !s.isKind i .equals then [i] else [] := by
  have whole := List.takeWhile_append_dropWhile (p := fun j => !s.isKind j .equals) (l := segment)
  rw [header, header, value?, List.takeWhile_append]
  cases behind : segment.dropWhile fun j => !s.isKind j .equals with
  | nil =>
    -- Without an equals sign all of the segment is its header.
    rw [behind, List.append_nil] at whole
    cases equals : s.isKind i .equals <;> simp [whole, equals]
  | cons sign value =>
    rw [behind] at whole
    have shorter : (segment.takeWhile fun j => !s.isKind j .equals).length ≠ segment.length := by
      have lengths := congrArg List.length whole
      rw [List.length_append, List.length_cons] at lengths
      omega
    simp [shorter]

theorem declaredIn_concat (segment : List Nat) (i : Nat) :
    s.declaredIn (segment ++ [i]) = s.declaredIn segment ++
      if (s.value? segment).isNone && s.isKind i .variable then [i] else [] := by
  rw [declaredIn, declaredIn, header_concat, List.filter_append]
  cases variable' : s.isKind i .variable with
  | true =>
    have sign : s.isKind i .equals = false := isKind_eq_false variable' (by decide)
    cases s.value? segment <;> simp [variable', sign]
  | false => cases s.value? segment <;> cases s.isKind i .equals <;> simp [variable']

theorem owner?_concat (segment : List Nat) (i : Nat) :
    s.owner? (segment ++ [i]) =
      if (s.value? segment).isNone && s.isKind i .variable then some (s.variableName i)
      else s.owner? segment := by
  rw [owner?, owner?, declaredIn_concat]
  split <;> simp

theorem flatMap_declaredIn_concat (ended : List (List Nat)) (segment : List Nat) (i : Nat) :
    (ended ++ [segment ++ [i]]).flatMap s.declaredIn =
      (ended ++ [segment]).flatMap s.declaredIn ++
        if (s.value? segment).isNone && s.isKind i .variable then [i] else [] := by
  rw [List.flatMap_append, List.flatMap_append, List.flatMap_singleton, List.flatMap_singleton,
    declaredIn_concat, List.append_assoc]

theorem finalValue_concat (segments : List (List Nat)) (segment : List Nat) (name : String) :
    s.finalValue (segments ++ [segment]) name =
      if s.owner? segment = some name then (s.value? segment).getD (s.finalValue segments name)
      else s.finalValue segments name := by
  rw [finalValue, List.filter_append, List.filterMap_append, List.getLast?_append]
  split
  next owned => cases value : s.value? segment <;> simp [owned, value, finalValue]
  next other => simp [other, finalValue]

theorem finalValue_eq_nil {segments : List (List Nat)} {name : String}
    (others : ∀ i ∈ segments.flatMap s.declaredIn, s.variableName i ≠ name) :
    s.finalValue segments name = [] := by
  have none : segments.filter (s.owner? · == some name) = [] := by
    refine List.filter_eq_nil_iff.mpr fun segment member => ?_
    rw [beq_iff_eq, owner?, Option.map_eq_some_iff]
    rintro ⟨i, last, named⟩
    have declared := List.mem_of_getLast? last
    exact others i (List.mem_flatMap.mpr ⟨segment, member, declared⟩) named
  rw [finalValue, none]
  rfl

/-! ### Open brackets -/

/-- The number of brackets that are opened among tokens and still open behind them. -/
def OpenBehind (s : TokenStream) (tokens : List Nat) (depth : Nat) : Prop :=
  ∀ k, k < depth ↔ ∃ tail, tail <:+ tokens ∧
    tail.countP s.closesBracket + k < tail.countP s.opensBracket

theorem leavesOpen_eq_false_iff {tokens : List Nat} {depth : Nat}
    (behind : s.OpenBehind tokens depth) : s.leavesOpen tokens = false ↔ depth = 0 := by
  have positive : s.leavesOpen tokens = true ↔ 0 < depth := by
    rw [behind 0, leavesOpen, List.any_eq_true]
    simp only [List.mem_tails, decide_eq_true_eq, Nat.add_zero]
  rw [← Bool.not_eq_true, positive]
  omega

theorem closesBracket_eq_false (opens : s.opensBracket i = true) : s.closesBracket i = false := by
  simp only [opensBracket, List.any_cons, List.any_nil, Bool.or_false, Bool.or_eq_true] at opens
  rcases opens with paren | brack | brace
  · simp [closesBracket, isKind_eq_false paren]
  · simp [closesBracket, isKind_eq_false brack]
  · simp [closesBracket, isKind_eq_false brace]

theorem OpenBehind.nil : s.OpenBehind [] 0 := by
  intro k
  simp

theorem OpenBehind.concat {tokens : List Nat} {depth : Nat} (behind : s.OpenBehind tokens depth)
    (i : Nat) : s.OpenBehind (tokens ++ [i])
      (if s.opensBracket i then depth + 1 else if s.closesBracket i then depth - 1 else depth) := by
  intro k
  -- A tail that opens anything ends with the new token, which counts for all of them alike.
  have tails : (∃ tail, tail <:+ tokens ++ [i] ∧
      tail.countP s.closesBracket + k < tail.countP s.opensBracket) ↔
        ∃ tail, tail <:+ tokens ∧
          tail.countP s.closesBracket + (if s.closesBracket i then 1 else 0) + k <
            tail.countP s.opensBracket + if s.opensBracket i then 1 else 0 := by
    constructor
    · rintro ⟨tail, isSuffix, excess⟩
      rcases List.suffix_concat_iff.mp isSuffix with rfl | ⟨tail', rfl, isSuffix'⟩
      · simp at excess
      · rw [List.countP_append, List.countP_append, List.countP_singleton,
          List.countP_singleton] at excess
        exact ⟨tail', isSuffix', excess⟩
    · rintro ⟨tail, isSuffix, excess⟩
      refine ⟨tail ++ [i], List.suffix_concat_iff.mpr (.inr ⟨tail, rfl, isSuffix⟩), ?_⟩
      rw [List.countP_append, List.countP_append, List.countP_singleton, List.countP_singleton]
      exact excess
  rw [tails]
  cases opens : s.opensBracket i with
  | true =>
    simp only [closesBracket_eq_false opens, if_true, Bool.false_eq_true, if_false, Nat.add_zero]
    cases k with
    | zero => exact ⟨fun _ => ⟨[], List.nil_suffix, by simp⟩, fun _ => Nat.succ_pos depth⟩
    | succ k =>
      rw [Nat.add_lt_add_iff_right, behind k]
      refine exists_congr fun tail => and_congr_right fun _ => ?_
      omega
  | false =>
    cases closes : s.closesBracket i with
    | true =>
      simp only [if_true, Bool.false_eq_true, if_false, Nat.add_zero]
      have deeper : k < depth - 1 ↔ k + 1 < depth := by omega
      rw [deeper, behind (k + 1)]
      refine exists_congr fun tail => and_congr_right fun _ => ?_
      omega
    | false =>
      simp only [Bool.false_eq_true, if_false, Nat.add_zero]
      exact behind k

/-! ### What the segments keep of a list -/

theorem codeOf_cons (i : Nat) (rest : List Nat) :
    s.codeOf (i :: rest) =
      match s.token? i with
      | none => []
      | some token => if token.kind.isFormatting then s.codeOf rest else i :: s.codeOf rest := by
  cases here : s.token? i with
  | none =>
    have past : ¬ i < s.size := Nat.not_lt.mpr (Array.getElem?_eq_none_iff.mp here)
    simp [codeOf, past]
  | some token =>
    have inside : i < s.size := (Array.getElem?_eq_some_iff.mp here).1
    have code : s.isCode i = !token.kind.isFormatting := by simp [isCode, kind?, here]
    cases layout : token.kind.isFormatting <;> simp [codeOf, inside, code, layout]

theorem flatten_segmentsFrom_sublist (segment positions : List Nat) :
    (s.segmentsFrom segment positions).flatten.Sublist (segment ++ positions) := by
  induction positions generalizing segment with
  | nil => simp [segmentsFrom]
  | cons i rest ih =>
    rw [segmentsFrom]
    split
    · -- A comma that ends a segment is part of none.
      have later := (ih []).trans (List.sublist_cons_self i rest)
      exact (List.Sublist.refl segment).append later
    · have longer := ih (segment ++ [i])
      rwa [List.append_assoc] at longer

theorem flatten_segments_sublist (positions : List Nat) :
    (s.segments positions).flatten.Sublist positions :=
  (flatten_segmentsFrom_sublist [] _).trans
    (List.filter_sublist.trans (List.takeWhile_sublist _))

theorem value?_sublist {segment value : List Nat} (given : s.value? segment = some value) :
    value.Sublist segment := by
  rw [value?] at given
  have dropped := List.dropWhile_sublist (l := segment) fun i => !s.isKind i .equals
  cases behind : segment.dropWhile fun i => !s.isKind i .equals with
  | nil =>
    rw [behind] at given
    cases given
  | cons sign rest =>
    rw [behind] at given dropped
    cases given
    exact (List.sublist_cons_self sign _).trans dropped

/-- A final value that is not empty stands in a segment that belongs to its name. -/
theorem finalValue_cases (segments : List (List Nat)) (name : String) :
    s.finalValue segments name = [] ∨ ∃ segment ∈ segments, s.owner? segment = some name ∧
      s.value? segment = some (s.finalValue segments name) := by
  rw [finalValue]
  cases last : ((segments.filter (s.owner? · == some name)).filterMap s.value?).getLast? with
  | none => exact .inl rfl
  | some value =>
    right
    obtain ⟨segment, member, given⟩ := List.mem_filterMap.mp (List.mem_of_getLast? last)
    obtain ⟨listed, owned⟩ := List.mem_filter.mp member
    exact ⟨segment, listed, beq_iff_eq.mp owned, given⟩

theorem mem_of_mem_finalValue {positions : List Nat} {name : String}
    (member : i ∈ s.finalValue (s.segments positions) name) : i ∈ positions := by
  rcases finalValue_cases (s.segments positions) name with none | ⟨segment, listed, -, given⟩
  · rw [none] at member
    cases member
  · have inside := (value?_sublist given).subset member
    exact (flatten_segments_sublist positions).subset (List.mem_flatten_of_mem listed inside)

end TokenStream

end ManifestLint
