import ManifestLint.Json.Basic

/-!
# Canonical values

Members are sorted into a list in strictly increasing order of name, and a list in that order is
left as it is, so the canonical form of a canonical value is the value itself. Nothing is invented
on the way: a canonical value is readable if the value was, and is nested no deeper.
-/
namespace ManifestLint.Json

/-! ### Sorting members -/

section Sorting

variable {α : Type}

/-- Members in strictly increasing order of name. -/
def Increasing (members : List (String × α)) : Prop := members.Pairwise fun a b => a.1 < b.1

theorem mem_insertMember {name : String} {value : α} {member : String × α}
    {members : List (String × α)} (inserted : member ∈ insertMember name value members) :
    member = (name, value) ∨ member ∈ members := by
  induction members with
  | nil => exact Or.inl (List.mem_singleton.mp inserted)
  | cons first members ih =>
    rw [insertMember] at inserted
    grind

theorem insertMember_increasing (name : String) (value : α) {members : List (String × α)}
    (increasing : Increasing members) : Increasing (insertMember name value members) := by
  induction members with
  | nil => exact List.pairwise_singleton _ _
  | cons first members ih =>
    obtain ⟨other, v⟩ := first
    obtain ⟨least, later⟩ := List.pairwise_cons.mp increasing
    rw [insertMember]
    split
    next same => exact List.pairwise_cons.mpr ⟨fun b member => same ▸ least b member, later⟩
    split
    next less =>
      refine List.pairwise_cons.mpr ⟨fun b member => ?_, increasing⟩
      rcases List.mem_cons.mp member with rfl | behind
      · exact less
      · exact String.lt_trans less (least b behind)
    next differs greater =>
      refine List.pairwise_cons.mpr ⟨fun b member => ?_, ih later⟩
      rcases mem_insertMember member with rfl | behind
      · exact Std.lt_of_le_of_ne (String.not_lt.mp greater) (Ne.symm differs)
      · exact least b behind

theorem insertMember_greatest {name : String} {value : α} {members : List (String × α)}
    (greatest : ∀ member ∈ members, member.1 < name) :
    insertMember name value members = members ++ [(name, value)] := by
  induction members with
  | nil => rfl
  | cons first members ih =>
    have less := greatest first List.mem_cons_self
    have differs : name ≠ first.1 := fun same => String.lt_irrefl _ (same ▸ less)
    rw [insertMember, if_neg differs, if_neg (String.lt_asymm less),
      ih fun member behind => greatest member (List.mem_cons_of_mem first behind)]
    rfl

theorem sortMembers_induction {motive : List (String × α) → Prop} {members : List (String × α)}
    (nil : motive [])
    (insert : ∀ sorted, ∀ member ∈ members, motive sorted →
      motive (insertMember member.1 member.2 sorted)) : motive (sortMembers members) :=
  List.foldlRecOn members _ nil fun sorted holds member listed => insert sorted member listed holds

theorem sortMembers_increasing (members : List (String × α)) : Increasing (sortMembers members) :=
  sortMembers_induction List.Pairwise.nil fun _ _ _ increasing =>
    insertMember_increasing _ _ increasing

theorem mem_of_mem_sortMembers {members : List (String × α)} :
    ∀ member ∈ sortMembers members, member ∈ members := by
  refine sortMembers_induction (motive := fun sorted => ∀ member ∈ sorted, member ∈ members)
    (fun _ none => absurd none List.not_mem_nil) fun sorted member listed among other inserted => ?_
  rcases mem_insertMember inserted with rfl | old
  · exact listed
  · exact among other old

theorem sortMembers_of_increasing {members : List (String × α)} (increasing : Increasing members) :
    sortMembers members = members := by
  -- Members are taken in one by one, each behind those before it.
  have fold (sorted rest : List (String × α)) (ordered : Increasing (sorted ++ rest)) :
      rest.foldl (fun sorted member => insertMember member.1 member.2 sorted) sorted =
        sorted ++ rest := by
    induction rest generalizing sorted with
    | nil => simp
    | cons member rest ih =>
      have greatest : ∀ other ∈ sorted, other.1 < member.1 := fun other before =>
        (List.pairwise_append.mp ordered).2.2 other before member List.mem_cons_self
      have next : sorted ++ member :: rest = (sorted ++ [member]) ++ rest := by simp
      rw [next] at ordered
      rw [List.foldl_cons, next, ← ih (sorted ++ [member]) ordered,
        ← insertMember_greatest greatest]
  exact fold [] members increasing

end Sorting

/-! ### Members one by one -/

theorem canonicalMembers_eq_map (members : List (String × Json)) :
    canonicalMembers members = members.map fun member => (member.1, canonical member.2) := by
  induction members with
  | nil => rfl
  | cons member members ih => rw [canonicalMembers, ih, List.map_cons]

theorem readableItems_iff {items : List Json} :
    readableItems items = true ↔ ∀ item ∈ items, item.isReadable = true := by
  induction items with
  | nil => simp [readableItems]
  | cons item items ih => simp [readableItems, ih]

theorem readableMembers_iff {members : List (String × Json)} :
    readableMembers members = true ↔ ∀ member ∈ members, member.2.isReadable = true := by
  induction members with
  | nil => simp [readableMembers]
  | cons member members ih => simp [readableMembers, ih]

theorem depthItems_le_iff {items : List Json} {bound : Nat} :
    depthItems items ≤ bound ↔ ∀ item ∈ items, item.depth ≤ bound := by
  induction items with
  | nil => simp [depthItems]
  | cons item items ih => rw [depthItems, Nat.max_le, ih, List.forall_mem_cons]

theorem depthMembers_le_iff {members : List (String × Json)} {bound : Nat} :
    depthMembers members ≤ bound ↔ ∀ member ∈ members, member.2.depth ≤ bound := by
  induction members with
  | nil => simp [depthMembers]
  | cons member members ih => rw [depthMembers, Nat.max_le, ih, List.forall_mem_cons]

/-! ### Canonical values -/

/-- What canonical form makes of a value: it changes no more, is readable if the value was, and is
nested no deeper. -/
structure Canonizes (value : Json) : Prop where
  fixed : canonical (canonical value) = canonical value
  readable : value.isReadable = true → (canonical value).isReadable = true
  depth : (canonical value).depth ≤ value.depth

section Containers

variable {items : List Json} {members : List (String × Json)}

theorem canonicalItems_eq_map (items : List Json) : canonicalItems items = items.map canonical := by
  induction items with
  | nil => rfl
  | cons item items ih => rw [canonicalItems, ih, List.map_cons]

theorem canonizes_arr (each : ∀ item ∈ items, Canonizes item) : Canonizes (.arr items) where
  fixed := by
    simp only [canonical, canonicalItems_eq_map, List.map_map, Json.arr.injEq]
    exact List.map_congr_left fun item listed => (each item listed).fixed
  readable := by
    simp only [isReadable, canonical, readableItems_iff, canonicalItems_eq_map]
    rintro readable _ listed
    obtain ⟨item, among, rfl⟩ := List.mem_map.mp listed
    exact (each item among).readable (readable item among)
  depth := by
    simp only [canonical, depth, canonicalItems_eq_map, Nat.add_le_add_iff_right, depthItems_le_iff]
    rintro _ listed
    obtain ⟨item, among, rfl⟩ := List.mem_map.mp listed
    exact Nat.le_trans (each item among).depth (depthItems_le_iff.mp (Nat.le_refl _) item among)

theorem exists_of_mem_sorted {member : String × Json}
    (sorted : member ∈ sortMembers (canonicalMembers members)) :
    ∃ other ∈ members, member = (other.1, canonical other.2) := by
  have listed := mem_of_mem_sortMembers member sorted
  rw [canonicalMembers_eq_map] at listed
  obtain ⟨other, among, equal⟩ := List.mem_map.mp listed
  exact ⟨other, among, equal.symm⟩

/-- Members in canonical form are in order, and so are their values. -/
theorem sortMembers_canonicalMembers (each : ∀ member ∈ members, Canonizes member.2) :
    sortMembers (canonicalMembers (sortMembers (canonicalMembers members))) =
      sortMembers (canonicalMembers members) := by
  have values : canonicalMembers (sortMembers (canonicalMembers members)) =
      sortMembers (canonicalMembers members) := by
    have same : ∀ member ∈ sortMembers (canonicalMembers members),
        (member.1, canonical member.2) = id member := by
      intro member sorted
      obtain ⟨other, among, rfl⟩ := exists_of_mem_sorted sorted
      exact Prod.ext rfl (each other among).fixed
    rw [canonicalMembers_eq_map (sortMembers _), List.map_congr_left same, List.map_id]
  rw [values, sortMembers_of_increasing (sortMembers_increasing _)]

theorem readable_sorted (each : ∀ member ∈ members, Canonizes member.2)
    (readable : readableMembers members = true) :
    readableMembers (sortMembers (canonicalMembers members)) = true := by
  rw [readableMembers_iff] at readable ⊢
  intro member sorted
  obtain ⟨other, among, rfl⟩ := exists_of_mem_sorted sorted
  exact (each other among).readable (readable other among)

theorem depth_sorted (each : ∀ member ∈ members, Canonizes member.2) :
    depthMembers (sortMembers (canonicalMembers members)) ≤ depthMembers members := by
  rw [depthMembers_le_iff]
  intro member sorted
  obtain ⟨other, among, rfl⟩ := exists_of_mem_sorted sorted
  exact Nat.le_trans (each other among).depth (depthMembers_le_iff.mp (Nat.le_refl _) other among)

theorem canonizes_obj (each : ∀ member ∈ members, Canonizes member.2) :
    Canonizes (.obj members) where
  fixed := congrArg Json.obj (sortMembers_canonicalMembers each)
  readable := readable_sorted each
  depth := Nat.succ_le_succ (depth_sorted each)

end Containers

mutual

theorem canonizes (value : Json) : Canonizes value := by
  match value with
  | .arr items => exact canonizes_arr (canonizes_items items)
  | .obj members => exact canonizes_obj (canonizes_members members)
  | .null | .bool _ | .num _ | .str _ | .unreadable => exact ⟨rfl, id, Nat.le_refl _⟩

theorem canonizes_items (items : List Json) : ∀ item ∈ items, Canonizes item := by
  match items with
  | [] => simp
  | item :: items =>
    exact List.forall_mem_cons.mpr ⟨canonizes item, canonizes_items items⟩

theorem canonizes_members (members : List (String × Json)) :
    ∀ member ∈ members, Canonizes member.2 := by
  match members with
  | [] => simp
  | (_, value) :: members =>
    exact List.forall_mem_cons.mpr ⟨canonizes value, canonizes_members members⟩

end

end ManifestLint.Json
