import ManifestLint.FileTree
import ManifestLint.Wildcard.Basic

/-!
# Finding files by a pattern

A pattern is cut at its slashes, and each part selects what stands in the directories selected so
far. A part without wildcards is followed as it is, so `.` and `..` lead where they lead in a path.
A part with wildcards selects by name; `..` and `.` are only selected by a part that begins with a
dot. Two stars select everything below. Files come in the order of a walk: a directory before what
it holds, and names in the order of their characters.
-/
namespace ManifestLint.Wildcard

/-- One part of a pattern between slashes. -/
inductive Part where
  /-- A name to be followed as it is. -/
  | literal (name : String)
  /-- A name with wildcards. -/
  | wild (atoms : List Atom)
  /-- Two stars: any number of directories. -/
  | directories
  deriving DecidableEq, Repr

/-- The characters of parts that are characters only. -/
def literal? (atoms : List Atom) : Option (List Char) :=
  atoms.mapM fun
    | .char c => some c
    | _ => none

/-- A part of a pattern. -/
def Part.parse? (text : String) : Option Part := do
  let atoms ← Wildcard.parse? text
  match literal? atoms with
  | some name => some (.literal (String.ofList name))
  | none => some (if atoms == [.anyDirectories] then .directories else .wild atoms)

/-- Something a walk has come to: the path it took, as text, and where that is. -/
structure Found where
  path : String
  place : Place
  deriving DecidableEq, Repr

/-- Follows a name from a directory. -/
def Found.follow? (t : FileTree) (found : Found) (name : String) : Option Found := do
  let place ← t.step? found.place name
  if (t.node? place).isSome then some ⟨Path.append found.path name, place⟩ else none

/-- What stands in a directory. -/
def Found.children (t : FileTree) (found : Found) : List Found :=
  if t.isDirectory found.place then
    (t.children found.place).map fun (place, _) =>
      ⟨Path.append found.path (place.getLastD ""), place⟩
  else []

/-- Everything below a directory, a directory before what it holds. -/
def Found.below (t : FileTree) (found : Found) : List Found :=
  if t.isDirectory found.place then
    (t.below found.place).map fun (place, _) =>
      ⟨(place.drop found.place.length).foldl Path.append found.path, place⟩
  else []

/-- The name a walk came to last. -/
def Found.name (found : Found) : List Char := (found.place.getLastD "").toList

/-- The special names that a part with wildcards selects: only if it begins with a dot. -/
def specialNames (atoms : List Atom) : List String :=
  if atoms.head? == some (.char '.') then
    ["..", "."].filter fun name => isMatch atoms name.toList
  else []

/-- Whether a part selects a name behind two stars. -/
def Part.selects (name : List Char) : Part → Bool
  | .literal expected => expected.toList == name
  | .wild atoms => isMatch atoms name
  | .directories => true

/-- What the parts of a pattern select, starting from something found. Two stars at the end select
directories. -/
def walk (t : FileTree) : List Part → Found → List Found
  | [], found => [found]
  | .literal name :: parts, found => (found.follow? t name).toList.flatMap (walk t parts)
  | .wild atoms :: parts, found =>
    -- The special names come before the others, the parent directory first.
    let special := (specialNames atoms).filterMap (found.follow? t)
    let named := (found.children t).filter fun child => isMatch atoms child.name
    (special ++ named).flatMap (walk t parts)
  | [.directories], found => (found.below t).filter fun below => t.isDirectory below.place
  -- Two pairs of stars in a row are one.
  | .directories :: .directories :: parts, found => walk t (.directories :: parts) found
  | .directories :: part :: parts, found =>
    ((found.below t).filter fun below => part.selects below.name).flatMap (walk t parts)

/-- Finds what an absolute pattern selects; none if it is no pattern. -/
def find? (t : FileTree) (pattern : String) : Option (List Found) := do
  let _ ← parse? pattern
  let parts ← ((Path.segments pattern).drop 1).mapM Part.parse?
  some (walk t parts ⟨"/", []⟩)

end ManifestLint.Wildcard
