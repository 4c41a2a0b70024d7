import ManifestLint.Proofs.Layout.Alignment
import ManifestLint.Statement

/-!
# Statements and layout

What a token means depends on its look and on its neighbours, so aligned tokens mean the same. A
token of layout means nothing.
-/
namespace ManifestLint

/-! ### Related lists and options -/

section Related

variable {α β γ δ : Type} {R : α → β → Prop} {P : γ → δ → Prop}

theorem rel_head? {xs : List α} {ys : List β} (related : List.Forall₂ R xs ys) :
    Option.Rel R xs.head? ys.head? := by
  cases related with
  | nil => exact .none
  | cons head _ => exact .some head

theorem rel_find? {xs : List α} {ys : List β} {p : α → Bool} {q : β → Bool}
    (agree : ∀ x y, R x y → p x = q y) (related : List.Forall₂ R xs ys) :
    Option.Rel R (xs.find? p) (ys.find? q) := by
  rw [← List.head?_filter, ← List.head?_filter]
  refine rel_head? (List.rel_filter (fun x y pair => ?_) related)
  show p x = true ↔ q y = true
  rw [agree x y pair]

theorem map_eq_of_forall₂ {xs : List α} {ys : List β} {f : α → γ} {g : β → γ}
    (agree : ∀ x y, R x y → f x = g y) (related : List.Forall₂ R xs ys) :
    xs.map f = ys.map g := by
  rw [← List.forall₂_eq_eq_eq]
  exact List.rel_map (fun x y pair => agree x y pair) related

theorem any_eq_of_forall₂ {xs : List α} {ys : List β} {p : α → Bool} {q : β → Bool}
    (agree : ∀ x y, R x y → p x = q y) (related : List.Forall₂ R xs ys) :
    xs.any p = ys.any q := by
  induction related with
  | nil => rfl
  | cons pair _ ih => rw [List.any_cons, List.any_cons, agree _ _ pair, ih]

theorem any_eq_of_rel {x : Option α} {y : Option β} {p : α → Bool} {q : β → Bool}
    (agree : ∀ a b, R a b → p a = q b) (related : Option.Rel R x y) : x.any p = y.any q := by
  cases related with
  | none => rfl
  | some pair => exact agree _ _ pair

theorem rel_bind {x : Option α} {y : Option β} {f : α → Option γ} {g : β → Option δ}
    (agree : ∀ a b, R a b → Option.Rel P (f a) (g b)) (related : Option.Rel R x y) :
    Option.Rel P (x.bind f) (y.bind g) := by
  cases related with
  | none => exact .none
  | some pair => exact agree _ _ pair

theorem rel_eq (x : Option α) : Option.Rel (· = ·) x x := by
  cases x with
  | none => exact .none
  | some => exact .some rfl

theorem rel_optionMap {x : Option α} {y : Option β} {f : α → γ} {g : β → δ}
    (agree : ∀ a b, R a b → P (f a) (g b)) (related : Option.Rel R x y) :
    Option.Rel P (x.map f) (y.map g) := by
  cases related with
  | none => exact .none
  | some pair => exact .some (agree _ _ pair)

end Related

namespace TokenStream

variable {s t : TokenStream} {i j : Nat}

/-! ### Aligned tokens mean the same -/

namespace SameCode

variable (same : SameCode s t) (aligned : s.Aligned t i j)
include same aligned

theorem next?_rel : Option.Rel (Aligned s t) (s.next? i) (t.next? j) := by
  rw [next?_eq, next?_eq, ← List.head?_filter, ← List.head?_filter]
  exact rel_head? (same.forall₂_after aligned)

theorem prev?_rel : Option.Rel (Aligned s t) (s.prev? i) (t.prev? j) := by
  rw [prev?_eq (lt_size_of_isCode aligned.left_isCode),
    prev?_eq (lt_size_of_isCode aligned.right_isCode), ← List.head?_filter, ← List.head?_filter,
    List.filter_reverse, List.filter_reverse]
  exact rel_head? (List.rel_reverse (same.forall₂_before aligned))

theorem nextIs_eq (kind : TokenKind) : s.nextIs i kind = t.nextIs j kind :=
  any_eq_of_rel (fun _ _ pair => same.isKind_eq pair kind) (same.next?_rel aligned)

theorem prevIs_eq (kind : TokenKind) : s.prevIs i kind = t.prevIs j kind :=
  any_eq_of_rel (fun _ _ pair => same.isKind_eq pair kind) (same.prev?_rel aligned)

theorem isFunctionCall_eq : s.isFunctionCall i = t.isFunctionCall j := by
  simp only [isFunctionCall, same.isKind_eq aligned, same.nextIs_eq aligned]

theorem isLookup_eq : s.isLookup i = t.isLookup j := by
  simp only [isLookup, same.isFunctionCall_eq aligned, same.text_eq aligned]

theorem isLegacyLookup_eq : s.isLegacyLookup i = t.isLegacyLookup j := by
  simp only [isLegacyLookup, same.isFunctionCall_eq aligned, same.text_eq aligned]

theorem isLegacyValidate_eq : s.isLegacyValidate i = t.isLegacyValidate j := by
  simp only [isLegacyValidate, same.isFunctionCall_eq aligned, same.text_eq aligned]

theorem isInclude_eq : s.isInclude i = t.isInclude j := by
  have key : ((s.next? i).any fun next => !s.isKind next .farrow) =
      (t.next? j).any fun next => !t.isKind next .farrow :=
    any_eq_of_rel (fun _ _ pair => by rw [same.isKind_eq pair]) (same.next?_rel aligned)
  simp only [isInclude, same.isKind_eq aligned, same.text_eq aligned, key]

theorem includedClass?_rel :
    Option.Rel (Aligned s t) (s.includedClass? i) (t.includedClass? j) := by
  rw [includedClass?, includedClass?, same.isInclude_eq aligned]
  split
  · refine rel_bind (fun next next' pair => ?_) (same.next?_rel aligned)
    rw [same.isKind_eq pair]
    split
    · exact same.next?_rel pair
    · exact .some pair
  · exact .none

theorem declaredClass?_rel :
    Option.Rel (Aligned s t) (s.declaredClass? i) (t.declaredClass? j) := by
  rw [declaredClass?, declaredClass?, same.isKind_eq aligned, same.nextIs_eq aligned]
  split
  · exact rel_bind (fun _ _ pair => same.next?_rel pair) (same.next?_rel aligned)
  · exact .none

theorem isResourceType_eq : s.isResourceType i = t.isResourceType j := by
  simp only [isResourceType, same.isKind_eq aligned, same.nextIs_eq aligned,
    same.prevIs_eq aligned]

theorem isNodeTitle_eq : s.isNodeTitle i = t.isNodeTitle j := by
  simp only [isNodeTitle, same.isKind_eq aligned]

end SameCode

/-! ### Layout means nothing -/

section Layout

variable (layout : s.isCode i = false)
include layout

theorem isKind_of_layout {kind : TokenKind} (code : kind.isFormatting = false) :
    s.isKind i kind = false := by
  cases holds : s.isKind i kind with
  | false => rfl
  | true =>
    rw [isCode_of_isKind code holds] at layout
    cases layout

theorem isFunctionCall_of_layout : s.isFunctionCall i = false := by
  rw [isFunctionCall, isKind_of_layout layout rfl, isKind_of_layout layout rfl]
  rfl

theorem isLookup_of_layout : s.isLookup i = false := by
  rw [isLookup, isFunctionCall_of_layout layout]
  rfl

theorem isLegacyLookup_of_layout : s.isLegacyLookup i = false := by
  rw [isLegacyLookup, isFunctionCall_of_layout layout]
  rfl

theorem isLegacyValidate_of_layout : s.isLegacyValidate i = false := by
  rw [isLegacyValidate, isFunctionCall_of_layout layout]
  rfl

theorem includedClass?_of_layout : s.includedClass? i = none := by
  rw [includedClass?, isInclude, isKind_of_layout layout rfl]
  rfl

theorem declaredClass?_of_layout : s.declaredClass? i = none := by
  rw [declaredClass?, isKind_of_layout layout rfl]
  rfl

theorem isResourceType_of_layout : s.isResourceType i = false := by
  rw [isResourceType, isKind_of_layout layout rfl]
  rfl

theorem isNodeTitle_of_layout : s.isNodeTitle i = false := by
  rw [isNodeTitle, isKind_of_layout layout rfl, isKind_of_layout layout rfl,
    isKind_of_layout layout rfl, isKind_of_layout layout rfl]
  rfl

end Layout

end TokenStream

end ManifestLint
