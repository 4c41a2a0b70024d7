import ManifestLint.Block.View
import ManifestLint.Proofs.Layout.Block

/-!
# Parameters, views and layout

Blocks over the same code declare the same parameters and say the same. Reading a parameter list is
a run over its code tokens, and every step keeps two states alike that have read the same.
-/
namespace ManifestLint

/-- Parameters that the same code declares. -/
structure Parameter.Alike (s t : TokenStream) (p q : Parameter) : Prop where
  name : p.name = q.name
  token : s.Aligned t p.token q.token
  value : List.Forall₂ (s.Aligned t) p.value q.value

/-- States of reading a parameter list that have read the same code. -/
structure ParameterScan.Alike (s t : TokenStream) (a b : ParameterScan) : Prop where
  params : List.Forall₂ (Parameter.Alike s t) a.params b.params
  current : a.current = b.current
  inValue : a.inValue = b.inValue
  depth : a.depth = b.depth

variable {s t : TokenStream} {i j : Nat}

/-! ### Changing parameters -/

section Changes

variable {ps qs : Parameters} (alike : List.Forall₂ (Parameter.Alike s t) ps qs)
include alike

theorem Parameters.declare_alike (name : String) (aligned : s.Aligned t i j) :
    List.Forall₂ (Parameter.Alike s t) (ps.declare name i) (qs.declare name j) := by
  have known : (ps.get? name).isSome = (qs.get? name).isSome := by
    have related := rel_find? (fun p q pair => by rw [pair.name]) alike
      (p := fun p => p.name == name) (q := fun q => q.name == name)
    rw [Parameters.get?, Parameters.get?]
    generalize ps.find? _ = found, qs.find? _ = found' at related
    cases related <;> rfl
  rw [declare, declare, known]
  split
  · exact alike
  · exact List.rel_append alike (.cons ⟨rfl, aligned, .nil⟩ .nil)

theorem Parameters.updateValue_alike (name : String) {f g : List Nat → List Nat}
    (agree : ∀ v w, List.Forall₂ (s.Aligned t) v w → List.Forall₂ (s.Aligned t) (f v) (g w)) :
    List.Forall₂ (Parameter.Alike s t) (ps.updateValue name f) (qs.updateValue name g) := by
  refine List.rel_map (fun p q pair => ?_) alike
  rw [pair.name]
  split
  · exact ⟨rfl, pair.token, agree _ _ pair.value⟩
  · exact pair

end Changes

/-! ### Reading a parameter list -/

namespace ParameterScan

variable {a b : ParameterScan}

theorem push_alike (alike : ParameterScan.Alike s t a b) (aligned : s.Aligned t i j) :
    ParameterScan.Alike s t (a.push i) (b.push j) := by
  rw [push, push, alike.current]
  split
  · exact alike
  · refine ⟨?_, rfl, alike.inValue, alike.depth⟩
    exact Parameters.updateValue_alike alike.params _ fun _ _ related =>
      List.rel_append related (.cons aligned .nil)

theorem stepHead_alike (alike : ParameterScan.Alike s t a b) (aligned : s.Aligned t i j)
    {one other : Token} (kind : one.kind = other.kind) (text : one.text = other.text) :
    ParameterScan.Alike s t (a.stepHead i one) (b.stepHead j other) := by
  rw [stepHead, stepHead, kind, text, alike.current]
  split
  · exact ⟨Parameters.declare_alike alike.params _ aligned, rfl, alike.inValue, alike.depth⟩
  · exact ⟨alike.params, rfl, alike.inValue, alike.depth⟩
  · split
    · exact ⟨alike.params, rfl, rfl, alike.depth⟩
    · refine ⟨?_, rfl, rfl, alike.depth⟩
      exact Parameters.updateValue_alike alike.params _ fun _ _ _ => .nil
  · exact alike

theorem stepValue_alike (alike : ParameterScan.Alike s t a b) (aligned : s.Aligned t i j)
    {one other : Token} (kind : one.kind = other.kind) :
    ParameterScan.Alike s t (a.stepValue i one) (b.stepValue j other) := by
  rw [stepValue, stepValue, kind, alike.depth]
  split
  · exact ⟨alike.params, rfl, rfl, rfl⟩
  · exact push_alike ⟨alike.params, alike.current, alike.inValue, rfl⟩ aligned

theorem step_alike (alike : ParameterScan.Alike s t a b) (aligned : s.Aligned t i j)
    {one other : Token} (kind : one.kind = other.kind) (text : one.text = other.text) :
    ParameterScan.Alike s t (a.step i one) (b.step j other) := by
  rw [step, step, kind, alike.inValue]
  split
  · exact alike
  split
  · exact stepValue_alike alike aligned kind
  · exact stepHead_alike alike aligned kind text

theorem run_alike (same : s.SameCode t) {xs ys : List Nat}
    (related : List.Forall₂ (s.Aligned t) xs ys) (alike : ParameterScan.Alike s t a b) :
    ParameterScan.Alike s t (run s a xs) (run t b ys) := by
  induction related generalizing a b with
  | nil => exact alike
  | cons aligned _ ih =>
    obtain ⟨one, other, here, here', kind, text, _⟩ := same.exists_tokens aligned
    rw [run, run, here, here']
    exact ih (step_alike alike aligned kind text)

/-- Reading passes over layout, as long as the tokens are there. -/
theorem run_filter_isCode (scan : ParameterScan) {positions : List Nat}
    (inside : ∀ i ∈ positions, i < s.size) :
    run s scan (positions.filter s.isCode) = run s scan positions := by
  induction positions generalizing scan with
  | nil => rfl
  | cons i rest ih =>
    have later := fun j member => inside j (List.mem_cons_of_mem i member)
    obtain ⟨token, here⟩ : ∃ token, s.token? i = some token :=
      ⟨_, Array.getElem?_eq_getElem (inside i List.mem_cons_self)⟩
    cases code : s.isCode i with
    | true =>
      rw [List.filter_cons_of_pos code, run, run, here]
      exact ih _ later
    | false =>
      -- The token is there but no code, so a step leaves the state as it is.
      have formatting : token.kind.isFormatting = true := by
        simpa [TokenStream.isCode, TokenStream.kind?, here] using code
      rw [List.filter_cons_of_neg (by simp [code]), ih _ later, run, here]
      dsimp only
      rw [step, formatting, if_pos rfl]

end ParameterScan

/-! ### Views of a block -/

namespace BlockKind.Alike

variable {a b : BlockKind} (alike : BlockKind.Alike s t a b)
include alike

theorem label_eq : a.label = b.label := by
  cases alike <;> rfl

theorem isClass_eq : a.isClass = b.isClass := by
  cases alike <;> rfl

theorem isDefinedType_eq : a.isDefinedType = b.isDefinedType := by
  cases alike <;> rfl

theorem isNode_eq : a.isNode = b.isNode := by
  cases alike <;> rfl

theorem name?_rel : Option.Rel (s.Aligned t) a.name? b.name? := by
  cases alike with
  | classDef named _ => exact .some named
  | definedType named _ => exact .some named
  | node _ => exact .none

theorem params?_rel : Option.Rel (Span.Alike s t) a.params? b.params? := by
  cases alike with
  | classDef _ given => exact given
  | definedType _ given => exact given
  | node _ => exact .none

theorem titles_rel : List.Forall₂ (s.Aligned t) a.titles b.titles := by
  cases alike with
  | classDef _ _ => exact .nil
  | definedType _ _ => exact .nil
  | node titled => exact titled

end BlockKind.Alike

namespace TokenStream.SameCode

variable (same : SameCode s t) {a b : Block} (alike : Block.Alike s t a b)
include same alike

theorem parameters_alike :
    List.Forall₂ (Parameter.Alike s t) (a.parameters s) (b.parameters t) := by
  have given := alike.kind.params?_rel
  rw [Block.parameters, Block.parameters]
  generalize a.kind.params? = params, b.kind.params? = params' at given
  cases given with
  | none => exact .nil
  | @some span span' spans =>
    dsimp only
    rw [parameters, parameters,
      ← ParameterScan.run_filter_isCode _ fun i member => ((span.mem_positions s i).mp member).1,
      ← ParameterScan.run_filter_isCode _ fun i member => ((span'.mem_positions t i).mp member).1]
    exact (ParameterScan.run_alike same (same.forall₂_span spans) ⟨.nil, rfl, rfl, rfl⟩).params

omit same in
theorem titleTokens_rel : List.Forall₂ (Aligned s t) (a.titleTokens s) (b.titleTokens t) := by
  refine List.rel_filter (fun i j aligned => ?_) alike.kind.titles_rel
  simp [lt_size_of_isCode aligned.left_isCode, lt_size_of_isCode aligned.right_isCode]

theorem title_eq : a.title s = b.title t := by
  rw [Block.title, Block.title,
    map_eq_of_forall₂ (fun _ _ aligned => same.text_eq aligned) (titleTokens_rel alike)]

theorem name_eq : a.name s = b.name t := by
  have named : Option.Rel (fun one other : Token => one.text = other.text)
      (a.kind.name?.bind s.token?) (b.kind.name?.bind t.token?) := by
    refine rel_bind (fun i j aligned => ?_) alike.kind.name?_rel
    obtain ⟨one, other, here, here', _, text, _⟩ := same.exists_tokens aligned
    rw [here, here']
    exact .some text
  rw [Block.name, Block.name, same.title_eq alike]
  generalize a.kind.name?.bind s.token? = token, b.kind.name?.bind t.token? = token' at named
  cases named with
  | none => rfl
  | some text => exact congrArg Name.normalize text

theorem module_eq : a.module s = b.module t := by
  rw [Block.module, Block.module, same.name_eq alike]

theorem layer_eq (c : Conventions) : a.layer s c = b.layer t c := by
  have profile : a.isProfile s c = b.isProfile t c := by
    rw [Block.isProfile, Block.isProfile, alike.kind.isClass_eq, same.module_eq alike]
  have role : a.isRole s c = b.isRole t c := by
    rw [Block.isRole, Block.isRole, alike.kind.isClass_eq, same.module_eq alike]
  have kinds := alike.kind
  rw [Block.layer, Block.layer, profile, role]
  generalize a.kind = kind, b.kind = kind' at kinds
  cases kinds <;> rfl

theorem legacyValidates_rel :
    List.Forall₂ (Aligned s t) (a.legacyValidates s) (b.legacyValidates t) :=
  filter_rel (same.forall₂_block alike) (fun _ layout => isLegacyValidate_of_layout layout)
    (fun _ layout => isLegacyValidate_of_layout layout)
    (fun _ _ aligned => same.isLegacyValidate_eq aligned)

theorem includedClasses_rel :
    List.Forall₂ (Aligned s t) (a.includedClasses s) (b.includedClasses t) :=
  filterMap_rel (same.forall₂_block alike) (fun _ layout => includedClass?_of_layout layout)
    (fun _ layout => includedClass?_of_layout layout)
    (fun _ _ aligned => same.includedClass?_rel aligned)

theorem declaredClasses_rel :
    List.Forall₂ (Aligned s t) (a.declaredClasses s) (b.declaredClasses t) :=
  filterMap_rel (same.forall₂_block alike) (fun _ layout => declaredClass?_of_layout layout)
    (fun _ layout => declaredClass?_of_layout layout)
    (fun _ _ aligned => same.declaredClass?_rel aligned)

theorem declaredResources_rel :
    List.Forall₂ (Aligned s t) (a.declaredResources s) (b.declaredResources t) :=
  filter_rel (same.forall₂_block alike) (fun _ layout => isResourceType_of_layout layout)
    (fun _ layout => isResourceType_of_layout layout)
    (fun _ _ aligned => same.isResourceType_eq aligned)

theorem resourcesOf_rel (type : String) :
    List.Forall₂ (Aligned s t) (a.resourcesOf s type) (b.resourcesOf t type) := by
  refine List.rel_filter (fun i j aligned => ?_) (same.declaredResources_rel alike)
  dsimp only
  rw [same.text_eq aligned]

end TokenStream.SameCode

end ManifestLint
