import ManifestLint.Linter.Run
import Mathlib.Order.Compare

/-!
# The order of a report

A report is sorted by file, line and column, files by the steps of their paths. Sorting is stable:
what stands at the same place stays in the order in which it was reported. So a sorted report is
determined by what is reported at each place, in which order.
-/
namespace ManifestLint

/-! ### The order of paths -/

namespace Path

/-- The name of a step that has one. -/
def Component.name : Component → String
  | .normal name => name
  | _ => ""

theorem Component.compare_eq :
    Component.compare = compareLex (compareOn Component.rank) (compareOn Component.name) := by
  funext a b
  cases a <;> cases b <;> rfl

instance : Std.TransCmp Component.compare := by
  rw [Component.compare_eq]
  infer_instance

instance : Std.LawfulEqCmp Component.compare where
  compare_self := Std.ReflCmp.compare_self
  eq_of_compare := by
    intro a b same
    rw [Component.compare_eq, compareLex, Ordering.then_eq_eq] at same
    have rank : a.rank = b.rank := Std.LawfulEqCmp.eq_of_compare same.1
    have name : a.name = b.name := Std.LawfulEqCmp.eq_of_compare same.2
    cases a <;> cases b <;> simp_all [Component.rank, Component.name]

theorem compareSteps_eq : compareSteps = List.compareLex Component.compare := by
  funext first second
  induction first generalizing second with
  | nil => cases second <;> rfl
  | cons a first ih =>
    cases second with
    | nil => rfl
    | cons b second => rw [compareSteps, List.compareLex_cons_cons, ih]

instance : Std.TransCmp compareSteps := by
  rw [compareSteps_eq]
  infer_instance

instance : Std.LawfulEqCmp compareSteps := by
  rw [compareSteps_eq]
  infer_instance

instance : Std.TransCmp compare where
  eq_swap := by
    intro first second
    rw [compare, compare]
    exact Std.OrientedCmp.eq_swap
  isLE_trans := by
    intro first second third one two
    rw [compare] at one two ⊢
    exact Std.TransCmp.isLE_trans one two

theorem compare_eq_iff {first second : String} :
    compare first second = .eq ↔ components first = components second := by
  rw [compare]
  exact Std.LawfulEqCmp.compare_eq_iff_eq

end Path

/-! ### The order of violations -/

namespace Violation

/-- The order of two violations in a report: by the steps of their files, then by line, then by
column. -/
def InOrder (v w : Violation) : Prop :=
  Path.compare v.location.file w.location.file = .lt ∨
    Path.components v.location.file = Path.components w.location.file ∧
      (v.location.line < w.location.line ∨
        v.location.line = w.location.line ∧ v.location.column ≤ w.location.column)

/-- Whether two violations stand in the same file, on the same line and in the same column. -/
def SamePlace (v w : Violation) : Prop :=
  Path.components v.location.file = Path.components w.location.file ∧
    v.location.line = w.location.line ∧ v.location.column = w.location.column

instance (v w : Violation) : Decidable (v.SamePlace w) :=
  inferInstanceAs (Decidable (_ ∧ _))

/-- The comparison behind the order of a report. -/
def comparePlaces : Violation → Violation → Ordering :=
  compareLex (fun v w => Path.compare v.location.file w.location.file)
    (compareLex (compareOn fun v => v.location.line) (compareOn fun v => v.location.column))

instance : Std.TransCmp comparePlaces := by
  have files : Std.TransCmp fun v w : Violation =>
      Path.compare v.location.file w.location.file :=
    { eq_swap := Std.OrientedCmp.eq_swap, isLE_trans := Std.TransCmp.isLE_trans }
  rw [comparePlaces]
  infer_instance

theorem samePlace_iff {v w : Violation} : v.SamePlace w ↔ comparePlaces v w = .eq := by
  rw [comparePlaces, compareLex, compareLex, Ordering.then_eq_eq, Ordering.then_eq_eq,
    Path.compare_eq_iff, compareOn, compareOn, Nat.compare_eq_eq, Nat.compare_eq_eq]
  rfl

theorem SamePlace.symm {v w : Violation} (same : v.SamePlace w) : w.SamePlace v :=
  ⟨same.1.symm, same.2.1.symm, same.2.2.symm⟩

theorem SamePlace.trans {u v w : Violation} (one : u.SamePlace v) (two : v.SamePlace w) :
    u.SamePlace w :=
  ⟨one.1.trans two.1, one.2.1.trans two.2.1, one.2.2.trans two.2.2⟩

theorem SamePlace.refl (v : Violation) : v.SamePlace v := ⟨rfl, rfl, rfl⟩

end Violation

namespace Linter

theorem comesBefore_eq (v w : Violation) : comesBefore v w = (v.comparePlaces w).isLE := rfl

theorem comesBefore_iff_inOrder {v w : Violation} : comesBefore v w = true ↔ v.InOrder w := by
  rw [comesBefore, Ordering.isLE_then_iff_or, Ordering.isLE_then_iff_or, Path.compare_eq_iff,
    Nat.compare_eq_lt, Nat.compare_eq_eq, Nat.isLE_compare]
  rfl

theorem comesBefore_trans (u v w : Violation) (one : comesBefore u v = true)
    (two : comesBefore v w = true) : comesBefore u w = true := by
  rw [comesBefore_eq] at one two ⊢
  exact Std.TransCmp.isLE_trans one two

theorem comesBefore_total (v w : Violation) : (comesBefore v w || comesBefore w v) = true := by
  have swapped : v.comparePlaces w = (w.comparePlaces v).swap := Std.OrientedCmp.eq_swap
  rw [comesBefore_eq, comesBefore_eq, swapped]
  cases w.comparePlaces v <;> rfl

theorem samePlace_of_comesBefore {v w : Violation} (one : comesBefore v w = true)
    (two : comesBefore w v = true) : v.SamePlace w :=
  Violation.samePlace_iff.mpr (Std.OrientedCmp.isLE_antisymm one two)

theorem comesBefore_of_samePlace {v w : Violation} (same : v.SamePlace w) :
    comesBefore v w = true := by
  rw [comesBefore_eq, Violation.samePlace_iff.mp same]
  rfl

/-! ### Sorting -/

theorem inOrder_mergeSort (violations : List Violation) :
    (violations.mergeSort comesBefore).Pairwise Violation.InOrder :=
  (List.pairwise_mergeSort comesBefore_trans comesBefore_total violations).imp
    comesBefore_iff_inOrder.mp

/-- What stands at one place stays in the order in which it was reported. -/
theorem filter_mergeSort (violations : List Violation) (v : Violation) :
    (violations.mergeSort comesBefore).filter (v.SamePlace ·) =
      violations.filter (v.SamePlace ·) := by
  have tied : (violations.filter (v.SamePlace ·)).Pairwise fun u w => comesBefore u w = true := by
    refine List.pairwise_of_forall_mem_list fun u uHere w wHere => ?_
    have first : v.SamePlace u := by simpa using (List.mem_filter.mp uHere).2
    have second : v.SamePlace w := by simpa using (List.mem_filter.mp wHere).2
    exact comesBefore_of_samePlace (first.symm.trans second)
  -- A part that is in order already is kept as it is.
  have kept := List.sublist_mergeSort comesBefore_trans comesBefore_total tied List.filter_sublist
  have within := kept.filter (v.SamePlace ·)
  simp only [List.filter_filter, Bool.and_self] at within
  symm
  apply within.eq_of_length
  exact ((List.mergeSort_perm violations comesBefore).filter _).length_eq.symm

/-- A list in order is determined by what it holds at each place. -/
theorem eq_of_samePlaces {first second : List Violation}
    (firstOrder : first.Pairwise fun v w => comesBefore v w = true)
    (secondOrder : second.Pairwise fun v w => comesBefore v w = true)
    (same : ∀ v : Violation, first.filter (v.SamePlace ·) = second.filter (v.SamePlace ·)) :
    first = second := by
  induction first generalizing second with
  | nil =>
    cases second with
    | nil => rfl
    | cons w second =>
      have here := same w
      simp [Violation.SamePlace.refl] at here
  | cons v first ih =>
    cases second with
    | nil =>
      have here := same v
      simp [Violation.SamePlace.refl] at here
    | cons w second =>
      obtain ⟨vFirst, firstRest⟩ := List.pairwise_cons.mp firstOrder
      obtain ⟨wFirst, secondRest⟩ := List.pairwise_cons.mp secondOrder
      -- Each head occurs in the other list, so neither stands before the other.
      have vThere : v ∈ w :: second := by
        have listed : v ∈ (v :: first).filter (v.SamePlace ·) := by
          simp [Violation.SamePlace.refl]
        rw [same v] at listed
        exact (List.mem_filter.mp listed).1
      have wThere : w ∈ v :: first := by
        have listed : w ∈ (w :: second).filter (w.SamePlace ·) := by
          simp [Violation.SamePlace.refl]
        rw [← same w] at listed
        exact (List.mem_filter.mp listed).1
      have below : comesBefore w v = true := by
        rcases List.mem_cons.mp vThere with rfl | later
        · exact comesBefore_of_samePlace (.refl _)
        · exact wFirst v later
      have above : comesBefore v w = true := by
        rcases List.mem_cons.mp wThere with rfl | later
        · exact comesBefore_of_samePlace (.refl _)
        · exact vFirst w later
      have tied := samePlace_of_comesBefore above below
      have heads := same v
      simp only [List.filter_cons, decide_eq_true (Violation.SamePlace.refl v),
        decide_eq_true tied, if_true, List.cons.injEq] at heads
      obtain ⟨rfl, _⟩ := heads
      congr 1
      refine ih firstRest secondRest fun u => ?_
      have rest := same u
      simp only [List.filter_cons] at rest
      split at rest
      · exact (List.cons.inj rest).2
      · exact rest

/-- A report whose violations all stand at one place is in order already. -/
theorem mergeSort_eq_self_of_samePlace {violations : List Violation}
    (same : violations.Pairwise Violation.SamePlace) :
    violations.mergeSort comesBefore = violations :=
  List.mergeSort_of_pairwise (same.imp comesBefore_of_samePlace)

/-- Two lists are put into the same order exactly if they report the same at each place. -/
theorem mergeSort_eq_iff {first second : List Violation} :
    first.mergeSort comesBefore = second.mergeSort comesBefore ↔
      ∀ v : Violation, first.filter (v.SamePlace ·) = second.filter (v.SamePlace ·) := by
  constructor
  · intro same v
    rw [← filter_mergeSort first, same, filter_mergeSort]
  · intro places
    apply eq_of_samePlaces
    · exact List.pairwise_mergeSort comesBefore_trans comesBefore_total first
    · exact List.pairwise_mergeSort comesBefore_trans comesBefore_total second
    · intro v
      rw [filter_mergeSort, filter_mergeSort, places v]

end Linter

end ManifestLint
