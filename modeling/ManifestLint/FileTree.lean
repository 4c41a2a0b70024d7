import ManifestLint.Path

/-!
# File trees

The part of a file system that a run sees: which locations hold a directory or a file, and what the
files hold. A location is the list of names from the root down. A path is followed step by step, and
every step must start from a directory.
-/
namespace ManifestLint

/-- The names from the root of the file system down. -/
abbrev Place := List String

namespace Place

/-- The absolute path of a place. -/
def path (place : Place) : String := "/" ++ Path.ofSegments place

/-- The place behind one more segment of a path, whatever stands there. -/
def step (place : Place) (segment : String) : Place :=
  if Path.isVoid segment then place
  else if segment == ".." then place.dropLast
  else place ++ [segment]

/-- The places that an absolute path leads through, the last of them the one it leads to. -/
def way (path : String) : List Place :=
  (Path.segments path).scanl step []

end Place

/-- What stands at a place. -/
inductive Node where
  | directory
  | file (content : String)
  deriving DecidableEq, Repr

/-- The directories and files of a file system, each place at most once. The root is always a
directory. -/
structure FileTree where
  entries : List (Place × Node)
  deriving DecidableEq, Repr

namespace FileTree

/-- A file system with nothing in it. -/
def empty : FileTree := ⟨[]⟩

instance : Inhabited FileTree := ⟨empty⟩

/-- What stands at a place. -/
def node? (t : FileTree) (place : Place) : Option Node :=
  if place.isEmpty then some .directory else t.entries.lookup place

/-- Whether a directory stands at a place. -/
def isDirectory (t : FileTree) (place : Place) : Bool := t.node? place == some .directory

/-- Puts something at a place among entries, over what was there. -/
def putEntry (place : Place) (node : Node) : List (Place × Node) → List (Place × Node)
  | [] => [(place, node)]
  | entry :: rest =>
    if entry.1 = place then (place, node) :: rest else entry :: putEntry place node rest

/-- Puts something at a place, over what was there. -/
def put (t : FileTree) (place : Place) (node : Node) : FileTree :=
  ⟨putEntry place node t.entries⟩

/-- Takes away what stands at a place. -/
def erase (t : FileTree) (place : Place) : FileTree :=
  ⟨t.entries.filter fun entry => entry.1 != place⟩

/-- Makes the directories on the way to a place, the place itself included. Files on the way stay.
-/
def makeDirectories (t : FileTree) (place : Place) : FileTree :=
  (inits place).foldl
    (fun t place => if (t.node? place).isSome then t else t.put place .directory) t
where
  /-- The places on the way, the shortest first. -/
  inits (place : Place) : List Place := (List.range (place.length + 1)).map place.take

/-- One step along a path from a directory. -/
def step? (t : FileTree) (place : Place) (segment : String) : Option Place :=
  if t.isDirectory place then some (place.step segment) else none

/-- The place that an absolute path leads to. Something need not stand there, but every step must
start from a directory. -/
def resolve? (t : FileTree) (path : String) : Option Place :=
  (Path.segments path).foldlM t.step? []

/-- What an absolute path leads to. -/
def lookup? (t : FileTree) (path : String) : Option Node :=
  (t.resolve? path).bind t.node?

/-- The content of the file that an absolute path leads to. -/
def read? (t : FileTree) (path : String) : Option String :=
  match t.lookup? path with
  | some (.file content) => some content
  | _ => none

/-- Whether an absolute path leads to a file. -/
def isFile (t : FileTree) (path : String) : Bool := (t.read? path).isSome

/-- Writes the file that an absolute path leads to; none if a directory stands there or the
directory it should stand in is missing. -/
def write? (t : FileTree) (path content : String) : Option FileTree := do
  let place ← t.resolve? path
  if t.isDirectory place || !t.isDirectory place.dropLast then none
  else some (t.put place (.file content))

/-- The order of places: a directory before what it holds, names in the order of their
characters. -/
def placeLE : Place → Place → Bool
  | [], _ => true
  | _ :: _, [] => false
  | a :: as, b :: bs => a < b || (a == b && placeLE as bs)

/-- What stands below a place, in order. -/
def below (t : FileTree) (place : Place) : List (Place × Node) :=
  (t.entries.filter fun entry => place.isPrefixOf entry.1 && entry.1 != place).mergeSort
    fun a b => placeLE a.1 b.1

/-- What stands directly in a directory, in the order of names. -/
def children (t : FileTree) (place : Place) : List (Place × Node) :=
  (t.below place).filter fun entry => entry.1.length == place.length + 1

/-- The files that another tree does not hold, or holds with another content. -/
def filesSince (t before : FileTree) : List (Place × String) :=
  t.entries.filterMap fun (place, node) =>
    match node with
    | .directory => none
    | .file content =>
      if before.node? place == some (.file content) then none else some (place, content)

theorem lookup_putEntry (place other : Place) (node : Node) (entries : List (Place × Node)) :
    (putEntry place node entries).lookup other =
      if other = place then some node else entries.lookup other := by
  induction entries with
  | nil =>
    simp only [putEntry, List.lookup_cons, List.lookup_nil]
    by_cases asked : other = place <;> simp [asked, beq_eq_false_iff_ne.mpr]
  | cons entry rest ih =>
    obtain ⟨here, old⟩ := entry
    unfold putEntry
    split
    next same =>
      replace same : here = place := same
      subst same
      by_cases asked : other = here
      · simp [asked]
      · simp [List.lookup_cons, asked, beq_eq_false_iff_ne.mpr asked]
    next differs =>
      by_cases asked : other = here
      · subst asked
        have differs : other ≠ place := differs
        simp [differs]
      · simp [List.lookup_cons, beq_eq_false_iff_ne.mpr asked, ih]

/-- What is put at a place below the root stands there, and nothing else changes. -/
theorem node?_put (t : FileTree) (place other : Place) (node : Node) (below : place ≠ []) :
    (t.put place node).node? other = if other = place then some node else t.node? other := by
  unfold node? put
  by_cases root : other = []
  · simp [root, below.symm]
  · simp [root, lookup_putEntry]

/-- A file that does not replace a directory leaves the directories what they are. -/
theorem isDirectory_put_file (t : FileTree) (place : Place) (content : String)
    (free : t.isDirectory place = false) (other : Place) :
    (t.put place (.file content)).isDirectory other = t.isDirectory other := by
  have below : place ≠ [] := by
    rintro rfl
    simp [isDirectory, node?] at free
  unfold isDirectory at free ⊢
  rw [node?_put t place other _ below]
  split
  next same => rw [same, free]; rfl
  · rfl

/-- Paths lead to the same places in trees with the same directories. -/
theorem resolve?_congr {t u : FileTree} (same : ∀ place, t.isDirectory place = u.isDirectory place)
    (path : String) : t.resolve? path = u.resolve? path := by
  have step : t.step? = u.step? := by
    funext place segment
    simp [step?, same]
  simp [resolve?, step]

/-- A file that was written holds what was written to it. -/
theorem read?_of_write? {t u : FileTree} {path content : String}
    (written : t.write? path content = some u) : u.read? path = some content := by
  unfold write? at written
  cases target : t.resolve? path with
  | none => simp [target] at written
  | some place =>
    simp only [target, Option.bind_eq_bind, Option.bind_some] at written
    split at written
    · simp at written
    next allowed =>
      have free : t.isDirectory place = false := by simp_all
      have below : place ≠ [] := by
        rintro rfl
        simp [isDirectory, node?] at free
      obtain rfl := Option.some.inj written
      have same := resolve?_congr (isDirectory_put_file t place content free) path
      simp [read?, lookup?, same, target, node?_put t place place _ below]

end FileTree

end ManifestLint
