/-!
# Qualified names

A class, a defined type or a resource type is named by segments joined with `::`. A leading `::`
marks a name as absolute and carries no further meaning, so names are compared without it. The
first segment is the module that owns the name.
-/
namespace ManifestLint.Name

/-- The characters of a name after one leading `::`, if it has one. -/
def dropTopScope : List Char → List Char
  | ':' :: ':' :: rest => rest
  | name => name

/-- The characters up to the first `::`. -/
def firstSegment : List Char → List Char
  | [] => []
  | ':' :: ':' :: _ => []
  | c :: rest => c :: firstSegment rest

/-- A name without the leading `::` of the top scope. Only one is dropped. -/
def normalize (name : String) : String :=
  String.ofList (dropTopScope name.toList)

/-- The module that owns a name: its first segment. -/
def moduleOf (name : String) : String :=
  String.ofList (firstSegment (dropTopScope name.toList))

/-- Whether a name has more than one segment. -/
def isQualified (name : String) : Bool :=
  firstSegment name.toList != name.toList

@[simp] theorem toList_normalize (name : String) :
    (normalize name).toList = dropTopScope name.toList := by
  simp [normalize]

/-- The first segment begins the name. -/
theorem exists_firstSegment_append (name : List Char) :
    ∃ rest, name = firstSegment name ++ rest := by
  fun_induction firstSegment name with
  | case1 => exact ⟨[], rfl⟩
  | case2 rest => exact ⟨':' :: ':' :: rest, rfl⟩
  | case3 c rest _ ih =>
    obtain ⟨tail, equal⟩ := ih
    exact ⟨tail, by rw [List.cons_append, ← equal]⟩

/-- A prepended `::` is dropped again. -/
@[simp] theorem normalize_topScope (name : String) : normalize ("::" ++ name) = name := by
  simp [normalize, dropTopScope]

end ManifestLint.Name
