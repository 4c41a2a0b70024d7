import Mathlib.Data.List.Nodup
import Mathlib.Data.List.Pairwise
import ManifestLint.Proofs.Parameter.Segment

/-!
# Reading a parameter list by its segments

Reading a parameter list in one pass gives each name that a header declares its first declaring token
and its final value. The scan at any point is described by the segments already ended and the tokens
of the one that is still open (`ParameterScan.Follows`); each token either ends that segment or is
added to it.
-/
namespace ManifestLint

/-! ### First occurrences -/

theorem eraseDups_concat (names : List String) (name : String) :
    (names ++ [name]).eraseDups = names.eraseDups ++ if name ∈ names then [] else [name] := by
  rw [List.eraseDups_append]
  split
  next seen => simp [List.removeAll, seen]
  next unseen =>
    have one : [name].eraseDups = [name] := rfl
    simp [List.removeAll, unseen, one]

theorem nodup_eraseDups (names : List String) : names.eraseDups.Nodup := by
  induction names using List.reverseRecOn with
  | nil => exact List.nodup_nil
  | append_singleton names name ih =>
    rw [eraseDups_concat]
    split
    next seen => rwa [List.append_nil]
    next unseen =>
      rw [List.nodup_append]
      refine ⟨ih, List.nodup_singleton name, fun other member _ same => ?_⟩
      rw [List.mem_singleton.mp same]
      rintro rfl
      exact unseen (List.mem_eraseDups.mp member)

/-! ### What a scan has read -/

/-- Parameters that are those of the given variables, with the given final values. -/
structure Parameters.Reads (s : TokenStream) (params : Parameters) (declared : List Nat)
    (final : String → List Nat) : Prop where
  names : params.map Parameter.name = (declared.map s.variableName).eraseDups
  tokens : ∀ p ∈ params, declared.find? (s.variableName · == p.name) = some p.token
  values : ∀ p ∈ params, p.value = final p.name

/-- What holds of a scan behind segments that have ended and the tokens of one that is open. -/
structure ParameterScan.Follows (s : TokenStream) (scan : ParameterScan)
    (ended : List (List Nat)) (segment : List Nat) : Prop where
  reads : Parameters.Reads s scan.params ((ended ++ [segment]).flatMap s.declaredIn)
    (s.finalValue (ended ++ [segment]))
  current : scan.current = s.owner? segment
  inValue : scan.inValue = (s.value? segment).isSome
  depth : s.OpenBehind ((s.value? segment).getD []) scan.depth

namespace Parameters.Reads

variable {s : TokenStream} {params : Parameters} {declared : List Nat}
  {final final' : String → List Nat}

theorem mem_names_iff (reads : Reads s params declared final) (name : String) :
    (∃ p ∈ params, p.name = name) ↔ ∃ i ∈ declared, s.variableName i = name := by
  rw [← List.mem_map, reads.names, List.mem_eraseDups, List.mem_map]

theorem declare (reads : Reads s params declared final) (i : Nat)
    (fresh : (∀ j ∈ declared, s.variableName j ≠ s.variableName i) →
      final (s.variableName i) = []) :
    Reads s (params.declare (s.variableName i) i) (declared ++ [i]) final := by
  have known : (params.get? (s.variableName i)).isSome = true ↔
      ∃ j ∈ declared, s.variableName j = s.variableName i := by
    rw [← reads.mem_names_iff, Parameters.get?, List.find?_isSome]
    simp only [beq_iff_eq]
  have earlier : ∀ p ∈ params,
      (declared ++ [i]).find? (s.variableName · == p.name) = some p.token := by
    intro p member
    rw [List.find?_append, reads.tokens p member, Option.some_or]
  rw [Parameters.declare]
  split
  next seen =>
    have listed := List.mem_map.mpr (known.mp seen)
    refine ⟨?_, earlier, reads.values⟩
    rw [List.map_append, List.map_singleton, eraseDups_concat, if_pos listed, List.append_nil]
    exact reads.names
  next unseen =>
    have others : ∀ j ∈ declared, s.variableName j ≠ s.variableName i :=
      fun j listed same => unseen (known.mpr ⟨j, listed, same⟩)
    refine ⟨?_, ?_, ?_⟩
    · have missing : s.variableName i ∉ declared.map s.variableName :=
        fun listed => unseen (known.mpr (List.mem_map.mp listed))
      rw [List.map_append, List.map_append, List.map_singleton, List.map_singleton,
        eraseDups_concat, if_neg missing, reads.names]
    · intro p member
      rcases List.mem_append.mp member with old | new
      · exact earlier p old
      · rw [List.mem_singleton.mp new]
        have first : declared.find? (s.variableName · == s.variableName i) = none := by
          simpa using others
        rw [List.find?_append, first]
        simp
    · intro p member
      rcases List.mem_append.mp member with old | new
      · exact reads.values p old
      · rw [List.mem_singleton.mp new]
        exact (fresh others).symm

theorem update (reads : Reads s params declared final) (name : String)
    (f : List Nat → List Nat) (here : final' name = f (final name))
    (elsewhere : ∀ other, other ≠ name → final' other = final other) :
    Reads s (params.updateValue name f) declared final' := by
  have origin : ∀ p ∈ params.updateValue name f, ∃ q ∈ params, p.name = q.name ∧
      p.token = q.token ∧ p.value = if q.name = name then f q.value else q.value := by
    intro p member
    obtain ⟨q, old, rfl⟩ := List.mem_map.mp member
    refine ⟨q, old, ?_⟩
    by_cases named : q.name = name <;> simp [named]
  refine ⟨?_, ?_, ?_⟩
  · rw [← reads.names, Parameters.updateValue, List.map_map]
    refine List.map_congr_left fun q _ => ?_
    by_cases named : q.name = name <;> simp [named]
  · intro p member
    obtain ⟨q, old, sameName, sameToken, -⟩ := origin p member
    rw [sameName, sameToken]
    exact reads.tokens q old
  · intro p member
    obtain ⟨q, old, sameName, -, value⟩ := origin p member
    rw [value, sameName, reads.values q old]
    split
    next named => rw [named, here]
    next other => rw [elsewhere q.name other]

/-- The same with a name that may be missing, as the one a scan is at. -/
theorem give (reads : Reads s params declared final) (current : Option String)
    (f : List Nat → List Nat)
    (gives : ∀ name, final' name = if current = some name then f (final name) else final name) :
    Reads s (current.elim params (params.updateValue · f)) declared final' := by
  cases current with
  | none =>
    have same : final' = final := funext fun name => (gives name).trans (if_neg (by simp))
    exact same ▸ reads
  | some name =>
    refine reads.update name f ((gives name).trans (if_pos rfl)) fun other differs => ?_
    exact (gives other).trans (if_neg fun same => differs (Option.some.inj same).symm)

end Parameters.Reads

/-! ### One step -/

namespace ParameterScan.Follows

variable {s : TokenStream} {scan : ParameterScan} {ended : List (List Nat)} {segment : List Nat}
  {i : Nat}

/-- Behind no tokens nothing has been read. -/
theorem start : Follows s ⟨[], none, false, 0⟩ [] [] where
  reads := ⟨rfl, by simp, by simp⟩
  current := rfl
  inValue := rfl
  depth := .nil

/-- A segment ends, and one without tokens begins. -/
theorem cut (follows : scan.Follows s ended segment) (zero : scan.depth = 0) :
    Follows s { scan with current := none, inValue := false } (ended ++ [segment]) [] where
  reads := by
    have declared : ((ended ++ [segment]) ++ [[]]).flatMap s.declaredIn =
        (ended ++ [segment]).flatMap s.declaredIn := by
      rw [List.flatMap_append]
      exact List.append_nil _
    have final : s.finalValue ((ended ++ [segment]) ++ [[]]) = s.finalValue (ended ++ [segment]) := by
      funext name
      exact TokenStream.finalValue_concat _ [] name
    rw [declared, final]
    exact follows.reads
  current := rfl
  inValue := rfl
  depth := by
    dsimp only
    rw [zero]
    exact .nil

/-- A token that declares no name is added. It may change the value of the name the scan is at. -/
theorem extend (follows : scan.Follows s ended segment) (f : List Nat → List Nat)
    {scan' : ParameterScan}
    (params : scan'.params = scan.current.elim scan.params (scan.params.updateValue · f))
    (current : scan'.current = scan.current)
    (inValue : scan'.inValue = (s.value? (segment ++ [i])).isSome)
    (depth : s.OpenBehind ((s.value? (segment ++ [i])).getD []) scan'.depth)
    (plain : ((s.value? segment).isNone && s.isKind i .variable) = false)
    (gives : ∀ name, s.finalValue (ended ++ [segment ++ [i]]) name =
      if s.owner? segment = some name then f (s.finalValue (ended ++ [segment]) name)
      else s.finalValue (ended ++ [segment]) name) :
    scan'.Follows s ended (segment ++ [i]) where
  reads := by
    rw [TokenStream.flatMap_declaredIn_concat, plain, if_neg Bool.false_ne_true, List.append_nil,
      params]
    exact follows.reads.give _ f (by rwa [follows.current])
  current := by
    rw [TokenStream.owner?_concat, plain, if_neg Bool.false_ne_true, current]
    exact follows.current
  inValue := inValue
  depth := depth

theorem push_eq (scan : ParameterScan) (i : Nat) :
    scan.push i = { scan with
      params := scan.current.elim scan.params (scan.params.updateValue · (· ++ [i])) } := by
  obtain ⟨params, current, inValue, depth⟩ := scan
  cases current <;> rfl

theorem stepValue {token : Token} (follows : scan.Follows s ended segment)
    (here : s.token? i = some token) {value : List Nat} (given : s.value? segment = some value) :
    if s.isKind i .comma && !s.leavesOpen value then
      (scan.stepValue i token).Follows s (ended ++ [segment]) []
    else (scan.stepValue i token).Follows s ended (segment ++ [i]) := by
  have kinds := TokenStream.isKind_of_token? here
  have behind := follows.depth
  rw [given, Option.getD_some] at behind
  have outside : (scan.depth = 0 && token.kind == .comma) =
      (s.isKind i .comma && !s.leavesOpen value) := by
    rw [kinds, Bool.and_comm, Bool.eq_iff_iff]
    simp [TokenStream.leavesOpen_eq_false_iff behind]
  rw [ParameterScan.stepValue, outside]
  split
  next ends =>
    have zero : scan.depth = 0 := by
      rw [← TokenStream.leavesOpen_eq_false_iff behind]
      simpa using (Bool.and_eq_true_iff.mp ends).2
    exact follows.cut zero
  next goes =>
    have longer : s.value? (segment ++ [i]) = some (value ++ [i]) := by
      rw [TokenStream.value?_concat, given]
    have opens : ParameterScan.opens token.kind = s.opensBracket i := by
      simp [ParameterScan.opens, TokenStream.opensBracket, kinds, Bool.or_assoc]
    have closes : ParameterScan.closes token.kind = s.closesBracket i := by
      simp [ParameterScan.closes, TokenStream.closesBracket, kinds, Bool.or_assoc]
    rw [push_eq, opens, closes]
    refine follows.extend (· ++ [i]) rfl rfl ?_ ?_ (by rw [given]; rfl) fun name => ?_
    · rw [longer]
      exact follows.inValue.trans (by rw [given]; rfl)
    · rw [longer]
      exact behind.concat i
    · rw [TokenStream.finalValue_concat, TokenStream.finalValue_concat, TokenStream.owner?_concat,
        longer, given]
      split <;> simp_all

theorem declare (follows : scan.Follows s ended segment) (given : s.value? segment = none)
    (variable' : s.isKind i .variable = true) :
    Follows s { scan with
      params := scan.params.declare (s.variableName i) i, current := some (s.variableName i) }
      ended (segment ++ [i]) := by
  have still : s.value? (segment ++ [i]) = none := by
    rw [TokenStream.value?_concat, given]
    exact if_neg (by simp [TokenStream.isKind_eq_false variable'])
  have final : s.finalValue (ended ++ [segment ++ [i]]) = s.finalValue (ended ++ [segment]) := by
    funext name
    simp [TokenStream.finalValue_concat, still, given]
  refine ⟨?_, ?_, ?_, ?_⟩
  · rw [TokenStream.flatMap_declaredIn_concat, given, variable', final]
    refine follows.reads.declare i fun others => ?_
    -- Nothing gives a value to a name that no header declares.
    exact TokenStream.finalValue_eq_nil others
  · rw [TokenStream.owner?_concat, given, variable']
    rfl
  · rw [still, follows.inValue, given]
  · have behind := follows.depth
    rw [still]
    rwa [given] at behind

theorem assign (follows : scan.Follows s ended segment) (given : s.value? segment = none)
    (equals : s.isKind i .equals = true) :
    Follows s { scan with
      params := scan.current.elim scan.params (scan.params.updateValue · fun _ => [])
      inValue := true } ended (segment ++ [i]) := by
  have begun : s.value? (segment ++ [i]) = some [] := by
    rw [TokenStream.value?_concat, given]
    exact if_pos equals
  have noVariable : ((s.value? segment).isNone && s.isKind i .variable) = false := by
    simp [TokenStream.isKind_eq_false equals]
  refine follows.extend (fun _ => []) rfl rfl ?_ ?_ noVariable fun name => ?_
  · rw [begun]
    rfl
  · have behind := follows.depth
    rw [given] at behind
    rw [begun]
    exact behind
  · -- What the name has been given before is gone.
    rw [TokenStream.finalValue_concat, TokenStream.finalValue_concat, TokenStream.owner?_concat,
      begun, noVariable, given]
    simp

theorem skip (follows : scan.Follows s ended segment) (given : s.value? segment = none)
    (variable' : s.isKind i .variable = false) (equals : s.isKind i .equals = false) :
    scan.Follows s ended (segment ++ [i]) := by
  have still : s.value? (segment ++ [i]) = none := by
    rw [TokenStream.value?_concat, given]
    exact if_neg (by simp [equals])
  refine follows.extend id ?_ rfl ?_ ?_ (by simp [variable']) fun name => ?_
  · cases scan.current <;> simp [Parameters.updateValue]
  · rw [still, follows.inValue, given]
  · rw [still, ← given]
    exact follows.depth
  · simp [TokenStream.finalValue_concat, still, given]

theorem stepHead {token : Token} (follows : scan.Follows s ended segment)
    (here : s.token? i = some token) (given : s.value? segment = none) :
    if s.isKind i .comma then (scan.stepHead i token).Follows s (ended ++ [segment]) []
    else (scan.stepHead i token).Follows s ended (segment ++ [i]) := by
  have kinds := TokenStream.isKind_of_token? here
  by_cases variable' : token.kind = .variable
  · have declared := follows.declare given (i := i) (by simp [kinds, variable'])
    have name : s.variableName i = Parameter.nameOf token.text := by
      rw [TokenStream.variableName, TokenStream.text, here]
      rfl
    rw [name] at declared
    simpa [ParameterScan.stepHead, kinds, variable'] using declared
  by_cases comma : token.kind = .comma
  · have behind := follows.depth
    rw [given, Option.getD_none] at behind
    have inValue := follows.inValue
    rw [given] at inValue
    have ends := follows.cut ((TokenStream.leavesOpen_eq_false_iff behind).mp rfl)
    simpa [ParameterScan.stepHead, kinds, comma, inValue] using ends
  have noComma : s.isKind i .comma = false := by simp [kinds, comma]
  rw [noComma, if_neg Bool.false_ne_true]
  by_cases equals : token.kind = .equals
  · have step : scan.stepHead i token = { scan with
        params := scan.current.elim scan.params (scan.params.updateValue · fun _ => [])
        inValue := true } := by
      cases current : scan.current <;> simp [ParameterScan.stepHead, equals, current]
    rw [step]
    exact follows.assign given (by simp [kinds, equals])
  · have step : scan.stepHead i token = scan := by
      rw [ParameterScan.stepHead]
      split
      next kind => exact absurd kind variable'
      next kind => exact absurd kind comma
      next kind => exact absurd kind equals
      next => rfl
    rw [step]
    exact follows.skip given (by simp [kinds, variable']) (by simp [kinds, equals])

theorem step {token : Token} (follows : scan.Follows s ended segment)
    (here : s.token? i = some token) (code : token.kind.isFormatting = false) :
    if s.isKind i .comma && !s.leavesOpen ((s.value? segment).getD []) then
      (scan.step i token).Follows s (ended ++ [segment]) []
    else (scan.step i token).Follows s ended (segment ++ [i]) := by
  rw [ParameterScan.step, code, if_neg Bool.false_ne_true, follows.inValue]
  cases given : s.value? segment with
  | none =>
    have nothing : s.leavesOpen [] = false := rfl
    rw [Option.getD_none, nothing, Bool.not_false, Bool.and_true]
    exact follows.stepHead here given
  | some value => exact follows.stepValue here given

end ParameterScan.Follows

/-! ### The whole list -/

namespace TokenStream

variable {s : TokenStream}

theorem run_reads {scan : ParameterScan} {ended : List (List Nat)} {segment : List Nat}
    (follows : scan.Follows s ended segment) (positions : List Nat) :
    Parameters.Reads s (ParameterScan.run s scan positions).params
      ((ended ++ s.segmentsFrom segment (s.codeOf positions)).flatMap s.declaredIn)
      (s.finalValue (ended ++ s.segmentsFrom segment (s.codeOf positions))) := by
  -- Induction on the positions left; a comma moves the open segment to those that have ended.
  induction positions generalizing scan ended segment with
  | nil => exact follows.reads
  | cons i rest ih =>
    rw [codeOf_cons, ParameterScan.run]
    cases here : s.token? i with
    | none => exact follows.reads
    | some token =>
      dsimp only
      split
      next layout =>
        rw [ParameterScan.step, if_pos layout]
        exact ih follows
      next code =>
        have step := follows.step here (Bool.eq_false_iff.mpr code)
        rw [segmentsFrom]
        split at step
        next ends =>
          have read := ih step
          rw [List.append_assoc] at read
          rwa [if_pos ends]
        next goes =>
          rw [if_neg goes]
          exact ih step

theorem parameters_reads (s : TokenStream) (positions : List Nat) :
    Parameters.Reads s (s.parameters positions) ((s.segments positions).flatMap s.declaredIn)
      (s.finalValue (s.segments positions)) :=
  run_reads .start positions

theorem values_nodup {params : Parameters} {declared : List Nat} {segments : List (List Nat)}
    (reads : Parameters.Reads s params declared (s.finalValue segments))
    (distinct : segments.flatten.Nodup) : (params.flatMap Parameter.value).Nodup := by
  obtain ⟨each, apart⟩ := List.nodup_flatten.mp distinct
  have names : params.Pairwise (Parameter.name · ≠ Parameter.name ·) := by
    rw [← List.pairwise_map, reads.names]
    exact nodup_eraseDups _
  rw [List.nodup_flatMap]
  constructor
  · intro p member
    rw [reads.values p member]
    rcases finalValue_cases segments p.name with empty | ⟨segment, listed, -, given⟩
    · rw [empty]
      exact List.nodup_nil
    · exact (each segment listed).sublist (value?_sublist given)
  · refine names.imp_of_mem fun {p q} member member' differ i inFirst inSecond => ?_
    rw [reads.values p member] at inFirst
    rw [reads.values q member'] at inSecond
    rcases finalValue_cases segments p.name with empty | ⟨segment, listed, owner, given⟩
    · rw [empty] at inFirst
      cases inFirst
    rcases finalValue_cases segments q.name with empty | ⟨segment', listed', owner', given'⟩
    · rw [empty] at inSecond
      cases inSecond
    -- Segments of different names are different, so they have no token in common.
    have other : segment ≠ segment' := by
      rintro rfl
      exact differ (Option.some.inj (owner.symm.trans owner'))
    have symmetric : Std.Symm (List.Disjoint (α := Nat)) :=
      ⟨fun _ _ disjoint _ first second => disjoint second first⟩
    have disjoint := apart.forall listed listed' other
    exact disjoint ((value?_sublist given).subset inFirst) ((value?_sublist given').subset inSecond)

/-- The parameters that are read are those of the segments: one for each name that a header
declares, in the order of the first declarations, with the token of the first one and the final
value. In a list without repeated positions no token stands twice in the values. -/
theorem parameters_read_exactly (s : TokenStream) (positions : List Nat) :
    (s.parameters positions).map Parameter.name =
        (((s.segments positions).flatMap s.declaredIn).map s.variableName).eraseDups ∧
      ((s.parameters positions).map Parameter.name).Nodup ∧
      (∀ p ∈ s.parameters positions,
        ((s.segments positions).flatMap s.declaredIn).find? (s.variableName · == p.name) =
            some p.token ∧
          p.value = s.finalValue (s.segments positions) p.name) ∧
      (positions.Nodup → ((s.parameters positions).flatMap Parameter.value).Nodup) := by
  have reads := s.parameters_reads positions
  refine ⟨reads.names, ?_, fun p member => ⟨reads.tokens p member, reads.values p member⟩, ?_⟩
  · rw [reads.names]
    exact nodup_eraseDups _
  · intro distinct
    exact values_nodup reads (distinct.sublist (flatten_segments_sublist positions))

/-- `= 0, $a = f(1, $x = 2)), $b $a = 3, $b = 4, $$c`: a value without a name, a closing bracket that
matches none, and two names with two headers each. -/
def tangledList : TokenStream :=
  .ofList [.new .equals "=" 1 1, .new .number "0" 1 3, .new .comma "," 1 4,
    .new .variable "$a" 1 6, .new .equals "=" 1 9, .new .name "f" 1 11, .new .lparen "(" 1 12,
    .new .number "1" 1 13, .new .comma "," 1 14, .new .variable "$x" 1 16, .new .equals "=" 1 19,
    .new .number "2" 1 21, .new .rparen ")" 1 22, .new .rparen ")" 1 23, .new .comma "," 1 24,
    .new .whitespace " " 1 25, .new .variable "$b" 1 26, .new .variable "$a" 1 29,
    .new .equals "=" 1 32, .new .number "3" 1 34, .new .comma "," 1 35, .new .variable "$b" 1 37,
    .new .equals "=" 1 40, .new .number "4" 1 42, .new .comma "," 1 43, .new .variable "$$c" 1 45]

theorem parameters_read_exactly_of_tangledList :
    tangledList.segments (List.range 26) =
        [[0, 1], [3, 4, 5, 6, 7, 8, 9, 10, 11, 12, 13], [16, 17, 18, 19], [21, 22, 23], [25]] ∧
      tangledList.parameters (List.range 26) = [⟨"a", 3, [19]⟩, ⟨"b", 16, [23]⟩, ⟨"c", 25, []⟩] ∧
      tangledList.finalValue (tangledList.segments (List.range 26)) "b" = [23] ∧
      (List.range 26).Nodup ∧
      ((tangledList.parameters (List.range 26)).flatMap Parameter.value).Nodup := by
  have read : tangledList.parameters (List.range 26) =
      [⟨"a", 3, [19]⟩, ⟨"b", 16, [23]⟩, ⟨"c", 25, []⟩] := by decide +kernel
  have exactly := parameters_read_exactly tangledList (List.range 26)
  refine ⟨by decide +kernel, read, ?_, List.nodup_range, exactly.2.2.2 List.nodup_range⟩
  exact (exactly.2.2.1 ⟨"b", 16, [23]⟩ (by rw [read]; simp)).2.symm

end TokenStream

end ManifestLint
