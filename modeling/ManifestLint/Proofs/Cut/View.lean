import Mathlib.Data.List.Basic
import ManifestLint.Proofs.Cut.Statement

/-!
# Views of a block that was cut out

A block says within the cut what it says within the whole stream, its positions moved down by its
start.
-/
namespace ManifestLint

/-! ### Parameters at moved positions -/

/-- A parameter with all positions moved up. -/
def Parameter.moved (k : Nat) (p : Parameter) : Parameter :=
  { p with token := k + p.token, value := p.value.map (k + ·) }

/-- A state of reading a parameter list, with all positions moved up. -/
def ParameterScan.moved (k : Nat) (scan : ParameterScan) : ParameterScan :=
  { scan with params := scan.params.map (Parameter.moved k) }

namespace Parameters

variable {params : Parameters}

theorem declare_moved (k : Nat) (name : String) (i : Nat) :
    declare (params.map (Parameter.moved k)) name (k + i) =
      (params.declare name i).map (Parameter.moved k) := by
  have known : (get? (params.map (Parameter.moved k)) name).isSome = (params.get? name).isSome := by
    rw [get?, get?, List.find?_map, Option.isSome_map]
    rfl
  rw [declare, declare, known]
  split
  · rfl
  · rw [List.map_append]
    rfl

theorem updateValue_moved {k : Nat} (name : String) {f g : List Nat → List Nat}
    (agree : ∀ value, f (value.map (k + ·)) = (g value).map (k + ·)) :
    updateValue (params.map (Parameter.moved k)) name f =
      (params.updateValue name g).map (Parameter.moved k) := by
  rw [updateValue, updateValue, List.map_map, List.map_map]
  refine List.map_congr_left fun p _ => ?_
  by_cases named : p.name = name
  · simp [Parameter.moved, named, agree]
  · simp [Parameter.moved, named]

end Parameters

namespace ParameterScan

variable {scan : ParameterScan}

theorem push_moved (k i : Nat) : (scan.moved k).push (k + i) = (scan.push i).moved k := by
  rw [push, push]
  have current : (scan.moved k).current = scan.current := rfl
  rw [current]
  split
  · rfl
  · simp only [moved]
    rw [Parameters.updateValue_moved _ fun value => ?_]
    rw [List.map_append]
    rfl

theorem stepHead_moved (k i : Nat) (token : Token) :
    (scan.moved k).stepHead (k + i) token = (scan.stepHead i token).moved k := by
  rw [stepHead, stepHead]
  have current : (scan.moved k).current = scan.current := rfl
  rw [current]
  split
  · simp only [moved, Parameters.declare_moved]
  · rfl
  · split
    · rfl
    · simp only [moved]
      rw [Parameters.updateValue_moved _ fun value => ?_]
      rfl
  · rfl

theorem stepValue_moved (k i : Nat) (token : Token) :
    (scan.moved k).stepValue (k + i) token = (scan.stepValue i token).moved k := by
  rw [stepValue, stepValue]
  have depth : (scan.moved k).depth = scan.depth := rfl
  rw [depth]
  split
  · rfl
  · dsimp only
    rw [← push_moved]
    rfl

theorem step_moved (k i : Nat) (token : Token) :
    (scan.moved k).step (k + i) token = (scan.step i token).moved k := by
  rw [step, step]
  have inValue : (scan.moved k).inValue = scan.inValue := rfl
  rw [inValue]
  split
  · rfl
  split
  · exact stepValue_moved k i token
  · exact stepHead_moved k i token

/-- Where the tokens are the same, a run at moved positions reads the same. -/
theorem run_moved (scan : ParameterScan) {s t : TokenStream} {k : Nat} {positions : List Nat}
    (same : ∀ i ∈ positions, s.token? (k + i) = t.token? i) :
    run s (scan.moved k) (positions.map (k + ·)) = (run t scan positions).moved k := by
  induction positions generalizing scan with
  | nil => rfl
  | cons i rest ih =>
    rw [List.map_cons, run, run, same i List.mem_cons_self]
    split
    · rfl
    · rw [step_moved]
      exact ih _ fun j member => same j (List.mem_cons_of_mem i member)

end ParameterScan

/-! ### Lists of moved positions -/

section Moved

variable {k : Nat} {xs : List Nat}

theorem filter_moved {p q : Nat → Bool} (agree : ∀ i ∈ xs, p (k + i) = q i) :
    (xs.map (k + ·)).filter p = (xs.filter q).map (k + ·) := by
  rw [List.filter_map]
  congr 1
  exact List.filter_congr agree

theorem filterMap_moved {α β : Type} {f : Nat → Option β} {g : Nat → Option α} {move : α → β}
    (agree : ∀ i ∈ xs, f (k + i) = (g i).map move) :
    (xs.map (k + ·)).filterMap f = (xs.filterMap g).map move := by
  rw [List.filterMap_map, List.map_filterMap]
  exact List.filterMap_congr agree

end Moved

/-! ### Views -/

namespace BlockKind

variable (kind : BlockKind) (start : Nat)

theorem label_rebased : (kind.rebased start).label = kind.label := by
  cases kind <;> rfl

theorem isClass_rebased : (kind.rebased start).isClass = kind.isClass := by
  cases kind <;> rfl

theorem isDefinedType_rebased : (kind.rebased start).isDefinedType = kind.isDefinedType := by
  cases kind <;> rfl

theorem isNode_rebased : (kind.rebased start).isNode = kind.isNode := by
  cases kind <;> rfl

theorem name?_rebased : (kind.rebased start).name? = kind.name?.map (· - start) := by
  cases kind <;> rfl

theorem params?_rebased :
    (kind.rebased start).params? = kind.params?.map (Span.rebased start) := by
  cases kind <;> rfl

theorem titles_rebased : (kind.rebased start).titles = kind.titles.map (· - start) := by
  cases kind <;> rfl

end BlockKind

theorem Block.kind_rebased (b : Block) : b.rebased.kind = b.kind.rebased b.start := rfl

namespace Block.Framed

variable {s : TokenStream} {b : Block} (framed : b.Framed s) {j : Nat}
include framed

theorem positions_eq : b.positions s = (b.rebased.positions (b.alone s)).map (b.start + ·) := by
  have inside := framed.stop_lt_size
  have ordered := framed.ordered
  have size := framed.size_alone
  rw [positions, positions, rebased, List.map_add_range']
  dsimp only
  congr 1 <;> omega

theorem within_of_mem_positions (member : j ∈ b.rebased.positions (b.alone s)) :
    b.start + j ≤ b.stop :=
  framed.le_stop_of_lt_size ((Block.mem_positions _ _ j).mp member).1

theorem span_positions_eq {span : Span} (given : b.kind.params? = some span) :
    span.positions s = ((span.rebased b.start).positions (b.alone s)).map (b.start + ·) := by
  obtain ⟨start, ordered, stop⟩ := framed.params span given
  have inside := framed.stop_lt_size
  have size := framed.size_alone
  rw [Span.positions, Span.positions, Span.rebased, List.map_add_range']
  dsimp only
  congr 1 <;> omega

theorem parameters_eq :
    b.parameters s = (b.rebased.parameters (b.alone s)).map (Parameter.moved b.start) := by
  rw [parameters, parameters, rebased, BlockKind.params?_rebased]
  cases given : b.kind.params? with
  | none => rfl
  | some span =>
    have same : ∀ j ∈ (span.rebased b.start).positions (b.alone s),
        s.token? (b.start + j) = (b.alone s).token? j := by
      intro j member
      have inside := ((Span.mem_positions _ _ j).mp member).1
      exact (framed.token?_alone (framed.le_stop_of_lt_size inside)).symm
    simp only [Option.map_some, TokenStream.parameters]
    rw [framed.span_positions_eq given]
    -- The state that reading starts from names no position, so it is its own moved state.
    exact congrArg ParameterScan.params (ParameterScan.run_moved ⟨[], none, false, 0⟩ same)

theorem titleTokens_eq :
    b.titleTokens s = (b.rebased.titleTokens (b.alone s)).map (b.start + ·) := by
  have inside := framed.stop_lt_size
  have size := framed.size_alone
  rw [titleTokens, titleTokens, rebased, BlockKind.titles_rebased]
  -- All titles lie in the block, so both streams hold them all.
  have all : b.kind.titles.filter (· < s.size) = b.kind.titles :=
    List.filter_eq_self.mpr fun title titled => by
      have bounds := framed.titles title titled
      exact decide_eq_true (by omega)
  have allAlone : (b.kind.titles.map (· - b.start)).filter (· < (b.alone s).size) =
      b.kind.titles.map (· - b.start) := by
    refine List.filter_eq_self.mpr fun place moved => ?_
    obtain ⟨title, titled, rfl⟩ := List.mem_map.mp moved
    have bounds := framed.titles title titled
    exact decide_eq_true (by omega)
  have back : b.kind.titles.map ((b.start + ·) ∘ (· - b.start)) = b.kind.titles.map id := by
    refine List.map_congr_left fun title titled => ?_
    have bounds := framed.titles title titled
    exact Nat.add_sub_cancel' bounds.1
  rw [all, allAlone, List.map_map, back, List.map_id]

theorem title_eq : b.title s = b.rebased.title (b.alone s) := by
  rw [title, title, framed.titleTokens_eq, List.map_map]
  congr 1
  refine List.map_congr_left fun j member => ?_
  have inside : j < (b.alone s).size := of_decide_eq_true (List.mem_filter.mp member).2
  exact framed.text_alone (framed.le_stop_of_lt_size inside)

theorem name_eq : b.name s = b.rebased.name (b.alone s) := by
  have named : b.kind.name?.bind s.token? = b.rebased.kind.name?.bind (b.alone s).token? := by
    rw [rebased, BlockKind.name?_rebased]
    cases found : b.kind.name? with
    | none => rfl
    | some name =>
      obtain ⟨start, stop⟩ := framed.name name found
      have place : b.start + (name - b.start) = name := by omega
      rw [Option.map_some, Option.bind_some, Option.bind_some,
        framed.token?_alone (by rw [place]; exact stop), place]
  rw [Block.name, Block.name, named, framed.title_eq]

theorem module_eq : b.module s = b.rebased.module (b.alone s) := by
  rw [module, module, framed.name_eq]

theorem layer_eq (c : Conventions) : b.layer s c = b.rebased.layer (b.alone s) c := by
  have profile : b.isProfile s c = b.rebased.isProfile (b.alone s) c := by
    rw [isProfile, isProfile, framed.module_eq, rebased, BlockKind.isClass_rebased]
  have role : b.isRole s c = b.rebased.isRole (b.alone s) c := by
    rw [isRole, isRole, framed.module_eq, rebased, BlockKind.isClass_rebased]
  rw [layer, layer, profile, role]
  cases kind : b.kind <;> simp only [rebased, kind, BlockKind.rebased]

theorem legacyValidates_eq :
    b.legacyValidates s = (b.rebased.legacyValidates (b.alone s)).map (b.start + ·) := by
  rw [legacyValidates, legacyValidates, framed.positions_eq]
  exact filter_moved fun j member =>
    framed.isLegacyValidate_alone (framed.within_of_mem_positions member)

theorem includedClasses_eq :
    b.includedClasses s = (b.rebased.includedClasses (b.alone s)).map (b.start + ·) := by
  rw [includedClasses, includedClasses, framed.positions_eq]
  exact filterMap_moved fun j member =>
    framed.includedClass?_alone (framed.within_of_mem_positions member)

theorem declaredClasses_eq :
    b.declaredClasses s = (b.rebased.declaredClasses (b.alone s)).map (b.start + ·) := by
  rw [declaredClasses, declaredClasses, framed.positions_eq]
  exact filterMap_moved fun j member =>
    framed.declaredClass?_alone (framed.within_of_mem_positions member)

theorem declaredResources_eq :
    b.declaredResources s = (b.rebased.declaredResources (b.alone s)).map (b.start + ·) := by
  rw [declaredResources, declaredResources, framed.positions_eq]
  exact filter_moved fun j member =>
    framed.isResourceType_alone (framed.within_of_mem_positions member)

theorem resourcesOf_eq (type : String) :
    b.resourcesOf s type = (b.rebased.resourcesOf (b.alone s) type).map (b.start + ·) := by
  rw [resourcesOf, resourcesOf, framed.declaredResources_eq]
  refine filter_moved fun j member => ?_
  rw [framed.text_alone (framed.within_of_mem_positions (List.mem_filter.mp member).1)]

end Block.Framed

end ManifestLint
