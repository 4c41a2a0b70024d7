import Mathlib.Data.List.Basic
import ManifestLint.Path

/-!
# Segments of paths

A path is cut at its slashes, so the segments of a text with a slash in it are those before and those
behind it, and a name between two slashes is a segment that is neither the first nor the last. The
names of a path are its segments but for the empty ones, which only tell where slashes are doubled.
-/
namespace ManifestLint.Path

/-- The segments of a path that are not empty. -/
def named (path : String) : List String := (segments path).filter (· != "")

/-- What can stand between two slashes and is no step in place or upwards. -/
structure IsName (name : String) : Prop where
  noSlash : '/' ∉ name.toList
  some : name ≠ ""
  noDot : name ≠ "."
  noParent : name ≠ ".."

theorem isName_iff {name : String} :
    IsName name ↔ '/' ∉ name.toList ∧ name ≠ "" ∧ name ≠ "." ∧ name ≠ ".." :=
  ⟨fun isName => ⟨isName.noSlash, isName.some, isName.noDot, isName.noParent⟩,
    fun ⟨noSlash, nonempty, noDot, noParent⟩ => ⟨noSlash, nonempty, noDot, noParent⟩⟩

instance (name : String) : Decidable (IsName name) := decidable_of_iff _ isName_iff.symm

/-- A path of something below a root: first the names of the root, and then those of a relative path.
Slashes may be doubled between any of them. -/
structure IsBelow (root : String) (rel : List String) (path : String) : Prop where
  absolute : isAbsolute path = true
  names : named path = named root ++ rel
  last : (segments path).getLast? = rel.getLast?

/-! ### Cutting -/

theorem go_of_noSlash {name : List Char} (noSlash : '/' ∉ name) : segments.go name = [name] := by
  induction name with
  | nil => rfl
  | cons c name ih =>
    obtain ⟨first, rest⟩ := not_or.mp (mt List.mem_cons.mpr noSlash)
    rw [segments.go, if_neg (Ne.symm first), ih rest]

theorem go_ne_nil (text : List Char) : segments.go text ≠ [] := by
  cases text with
  | nil => exact List.cons_ne_nil _ _
  | cons c text =>
    rw [segments.go]
    split
    · exact List.cons_ne_nil _ _
    · split <;> exact List.cons_ne_nil _ _

theorem go_append (before after : List Char) :
    segments.go (before ++ '/' :: after) = segments.go before ++ segments.go after := by
  induction before with
  | nil => rfl
  | cons c before ih =>
    rw [List.cons_append, segments.go, segments.go, ih]
    split
    · rfl
    · obtain ⟨first, rest, cut⟩ := List.exists_cons_of_ne_nil (go_ne_nil before)
      rw [cut]
      rfl

theorem mem_of_mem_go {text part : List Char} (member : part ∈ segments.go text) {c : Char}
    (inside : c ∈ part) : c ∈ text ∧ c ≠ '/' := by
  induction text generalizing part with
  | nil =>
    rw [segments.go, List.mem_singleton] at member
    simp [member] at inside
  | cons d text ih =>
    obtain ⟨first, rest, cut⟩ := List.exists_cons_of_ne_nil (go_ne_nil text)
    rw [segments.go] at member
    split at member
    · rcases List.mem_cons.mp member with rfl | later
      · cases inside
      · exact (ih later inside).imp_left (List.mem_cons_of_mem d)
    next noSlash =>
      rw [cut] at member ih
      rcases List.mem_cons.mp member with rfl | later
      · rcases List.mem_cons.mp inside with rfl | behind
        · exact ⟨List.mem_cons_self, noSlash⟩
        · exact (ih List.mem_cons_self behind).imp_left (List.mem_cons_of_mem d)
      · exact (ih (List.mem_cons_of_mem first later) inside).imp_left (List.mem_cons_of_mem d)

theorem intercalate_go (text : List Char) : ['/'].intercalate (segments.go text) = text := by
  induction text with
  | nil => rfl
  | cons c text ih =>
    obtain ⟨first, rest, cut⟩ := List.exists_cons_of_ne_nil (go_ne_nil text)
    rw [cut] at ih
    rw [segments.go, cut]
    split
    next slash =>
      rw [List.intercalate_cons_cons, ih, slash]
      rfl
    · cases rest with
      | nil => simpa using ih
      | cons second rest =>
        rw [List.intercalate_cons_cons] at ih ⊢
        simpa using ih

theorem intercalate_append {front back : List (List Char)} (some : front ≠ []) (some' : back ≠ []) :
    ['/'].intercalate (front ++ back) =
      ['/'].intercalate front ++ '/' :: ['/'].intercalate back := by
  induction front with
  | nil => exact absurd rfl some
  | cons first rest ih =>
    cases rest with
    | nil =>
      obtain ⟨second, back, rfl⟩ := List.exists_cons_of_ne_nil some'
      simp [List.intercalate_cons_cons]
    | cons second rest =>
      have later := ih (List.cons_ne_nil _ _)
      simp only [List.cons_append] at later ⊢
      rw [List.intercalate_cons_cons, later, List.intercalate_cons_cons]
      simp

/-- A name between two slashes is a segment that is neither the first nor the last. -/
theorem mem_go_iff {name text : List Char} (noSlash : '/' ∉ name) :
    name ∈ (segments.go text).tail.dropLast ↔
      ∃ before after, text = before ++ '/' :: (name ++ '/' :: after) := by
  constructor
  · intro member
    obtain ⟨front, back, split⟩ := List.append_of_mem member
    obtain ⟨first, rest, cut⟩ := List.exists_cons_of_ne_nil (go_ne_nil text)
    rw [cut, List.tail_cons] at split
    have more : rest ≠ [] := by
      rintro rfl
      simp at split
    obtain ⟨last, ends⟩ : ∃ last, rest = front ++ name :: back ++ [last] :=
      ⟨rest.getLast more, by rw [← split, List.dropLast_append_getLast more]⟩
    -- The segments on either side of the name make up the text on that side.
    refine ⟨['/'].intercalate (first :: front), ['/'].intercalate (back ++ [last]), ?_⟩
    have whole : segments.go text = (first :: front) ++ ([name] ++ (back ++ [last])) := by
      rw [cut, ends]
      simp
    rw [← intercalate_go text, whole, intercalate_append (by simp) (by simp),
      intercalate_append (by simp) (by simp), List.intercalate_singleton]
  · rintro ⟨before, after, rfl⟩
    rw [go_append, go_append, go_of_noSlash noSlash,
      List.tail_append_of_ne_nil (go_ne_nil before), List.singleton_append,
      List.dropLast_append_of_ne_nil (List.cons_ne_nil _ _),
      List.dropLast_cons_of_ne_nil (go_ne_nil after)]
    simp

theorem mem_of_mem_segments {path part : String} (member : part ∈ segments path) {c : Char}
    (inside : c ∈ part.toList) : c ∈ path.toList ∧ c ≠ '/' := by
  rw [segments, List.mem_map] at member
  obtain ⟨chars, cut, rfl⟩ := member
  rw [String.toList_ofList] at inside
  exact mem_of_mem_go cut inside

theorem noSlash_of_mem_segments {path part : String} (member : part ∈ segments path) :
    '/' ∉ part.toList :=
  fun inside => (mem_of_mem_segments member inside).2 rfl

/-! ### Absolute paths -/

theorem exists_of_isAbsolute {path : String} (absolute : isAbsolute path = true) :
    ∃ rest, path.toList = '/' :: rest := by
  rw [isAbsolute, beq_iff_eq] at absolute
  cases chars : path.toList with
  | nil => simp [chars] at absolute
  | cons c rest => exact ⟨rest, by simp_all⟩

theorem segments_of_isAbsolute {path : String} (absolute : isAbsolute path = true) :
    ∃ rest, rest ≠ [] ∧ segments path = "" :: rest := by
  obtain ⟨rest, chars⟩ := exists_of_isAbsolute absolute
  refine ⟨(segments.go rest).map String.ofList, by simp [go_ne_nil], ?_⟩
  rw [segments, chars, segments.go, if_pos rfl, List.map_cons, String.ofList_nil]

theorem isAbsolute_of_noSlash {name : String} (noSlash : '/' ∉ name.toList) :
    isAbsolute name = false := by
  rw [isAbsolute, beq_eq_false_iff_ne]
  exact fun first => noSlash (List.mem_of_head? first)

/-- Where a directory of a path stands in its text. -/
theorem mem_dropLast_segments_iff {path name : String} (absolute : isAbsolute path = true)
    (noSlash : '/' ∉ name.toList) (some : name ≠ "") :
    name ∈ (segments path).dropLast ↔
      ∃ before after, path.toList = before ++ '/' :: (name.toList ++ '/' :: after) := by
  obtain ⟨rest, more, cut⟩ := segments_of_isAbsolute absolute
  have tail : (segments.go path.toList).tail.map String.ofList = rest := by
    rw [List.map_tail]
    exact congrArg List.tail cut
  rw [← mem_go_iff noSlash, cut, List.dropLast_cons_of_ne_nil more, List.mem_cons,
    or_iff_right some, ← tail, ← List.map_dropLast, List.mem_map]
  constructor
  · rintro ⟨chars, member, rfl⟩
    rwa [String.toList_ofList]
  · exact fun member => ⟨name.toList, member, String.ofList_toList⟩

/-- A name behind an absolute path is its last segment, and takes the place of an empty one. -/
theorem segments_append {base name : String} (absolute : isAbsolute base = true)
    (noSlash : '/' ∉ name.toList) :
    ∃ front, segments (append base name) = front ++ [name] ∧
      (segments base = front ∨ segments base = front ++ [""]) := by
  have some : base ≠ "" := by
    rintro rfl
    cases absolute
  have cut (front : List Char) (text : String)
      (chars : text.toList = front ++ '/' :: name.toList) :
      segments text = (segments.go front).map String.ofList ++ [name] := by
    rw [segments, chars, go_append, go_of_noSlash noSlash, List.map_append, List.map_singleton,
      String.ofList_toList]
  rw [append, isAbsolute_of_noSlash noSlash, if_neg Bool.false_ne_true,
    beq_eq_false_iff_ne.mpr some, Bool.false_or]
  split
  next slash =>
    -- No slash is put in between, so the name stands where the empty segment behind the last was.
    obtain ⟨front, chars⟩ := List.getLast?_eq_some_iff.mp (beq_iff_eq.mp slash)
    refine ⟨(segments.go front).map String.ofList, cut front _ (by simp [chars]), .inr ?_⟩
    rw [segments, chars, go_append]
    simp [segments.go]
  · exact ⟨segments base, cut base.toList _ (by simp), .inl rfl⟩

theorem isAbsolute_append {base : String} (absolute : isAbsolute base = true) {name : String}
    (noSlash : '/' ∉ name.toList) : isAbsolute (append base name) = true := by
  obtain ⟨rest, chars⟩ := exists_of_isAbsolute absolute
  rw [append, isAbsolute_of_noSlash noSlash, if_neg Bool.false_ne_true]
  split <;> simp [isAbsolute, chars]

theorem named_append {base name : String} (absolute : isAbsolute base = true)
    (noSlash : '/' ∉ name.toList) :
    named (append base name) = named base ++ [name].filter (· != "") := by
  obtain ⟨front, cut, whole | whole⟩ := segments_append absolute noSlash
  · rw [named, cut, List.filter_append, named, whole]
  · rw [named, cut, List.filter_append, named, whole, List.filter_append]
    simp

/-! ### Paths below a root -/

/-- A directory of a path below a root is one of the root or one of the relative path. -/
theorem IsBelow.mem_dropLast_iff {root path : String} {rel : List String}
    (below : IsBelow root rel path) {name : String} (some : name ≠ "") :
    name ∈ (segments path).dropLast ↔ name ∈ named root ∨ name ∈ rel.dropLast := by
  obtain ⟨rest, -, cut⟩ := segments_of_isAbsolute below.absolute
  obtain ⟨last, isLast⟩ : ∃ last, (segments path).getLast? = Option.some last := by
    rw [cut]
    exact ⟨_, List.getLast?_eq_some_getLast (List.cons_ne_nil _ _)⟩
  have ends := List.dropLast_append_getLast? last isLast
  have relEnds := List.dropLast_append_getLast? last (below.last ▸ isLast)
  -- The last segment is a name, so what stands before it are the names of both but for the last.
  have lastNamed : (last != "") = true := by
    have member : last ∈ named path := by
      rw [below.names]
      exact List.mem_append_right _ (List.mem_of_getLast? (below.last ▸ isLast))
    exact (List.mem_filter.mp member).2
  have front : (segments path).dropLast.filter (· != "") = named root ++ rel.dropLast := by
    have names := below.names
    have one : [last].filter (· != "") = [last] := by simp [lastNamed]
    rw [named, ← ends, ← relEnds, List.filter_append, one, ← List.append_assoc] at names
    exact List.append_cancel_right names
  rw [← List.mem_append, ← front, List.mem_filter, bne_iff_ne]
  exact (and_iff_left some).symm

theorem named_foldl_append {base : String} {rel : List String}
    (absolute : isAbsolute base = true) (names : ∀ name ∈ rel, '/' ∉ name.toList) :
    isAbsolute (rel.foldl append base) = true ∧
      named (rel.foldl append base) = named base ++ rel.filter (· != "") := by
  induction rel generalizing base with
  | nil => exact ⟨absolute, (List.append_nil _).symm⟩
  | cons name rel ih =>
    obtain ⟨first, later⟩ := List.forall_mem_cons.mp names
    have next := ih (isAbsolute_append absolute first) later
    rw [named_append absolute first, List.append_assoc, ← List.filter_append,
      List.singleton_append] at next
    exact next

theorem isBelow_foldl_append {root base : String} {rel : List String}
    (absolute : isAbsolute base = true) (same : named base = named root) (some : rel ≠ [])
    (names : ∀ name ∈ rel, IsName name) : IsBelow root rel (rel.foldl append base) := by
  have noSlash : ∀ name ∈ rel, '/' ∉ name.toList := fun name member => (names name member).noSlash
  have kept : rel.filter (· != "") = rel :=
    List.filter_eq_self.mpr fun name member => bne_iff_ne.mpr (names name member).some
  obtain ⟨absolute', named'⟩ := named_foldl_append absolute noSlash
  refine ⟨absolute', by rw [named', same, kept], ?_⟩
  obtain ⟨init, last, rfl⟩ := (List.eq_nil_or_concat rel).resolve_left some
  rw [List.concat_eq_append] at noSlash ⊢
  have start := (named_foldl_append absolute fun name member =>
    noSlash name (List.mem_append_left _ member)).1
  obtain ⟨front, cut, -⟩ :=
    segments_append start (noSlash last (List.mem_append_right _ (List.mem_singleton_self _)))
  rw [List.foldl_append, List.foldl_cons, List.foldl_nil, cut, List.getLast?_concat,
    List.getLast?_concat]

end ManifestLint.Path
