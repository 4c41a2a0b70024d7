/-!
# Paths

A path is the text a user wrote or a walk built, and is shown as such. To compare paths, a text is
cut into components: repeated slashes, a dot between two slashes and a trailing slash make no
difference, a leading dot does.
-/
namespace ManifestLint.Path

/-- The parts of a path between its slashes. -/
def segments (path : String) : List String :=
  (go path.toList).map String.ofList
where
  /-- Cuts a text at its slashes. -/
  go : List Char → List (List Char)
    | [] => [[]]
    | c :: cs =>
      if c = '/' then [] :: go cs
      else match go cs with
        | [] => [[c]]
        | first :: rest => (c :: first) :: rest

/-- Joins parts with slashes. -/
def ofSegments (parts : List String) : String := "/".intercalate parts

/-- A step of a path. -/
inductive Component where
  | root
  | current
  | parent
  | normal (name : String)
  deriving DecidableEq, Repr

/-- Whether a path starts at the root of the file system. -/
def isAbsolute (path : String) : Bool := path.toList.head? == some '/'

/-- A segment that is no step behind another: nothing, or a dot. -/
def isVoid (segment : String) : Bool := segment == "" || segment == "."

/-- The step of a segment. -/
def component (segment : String) : Component :=
  if segment == ".." then .parent else .normal segment

/-- The steps of a path. Only a leading dot is a step. -/
def components (path : String) : List Component :=
  let parts := segments path
  let body := (parts.filter (!isVoid ·)).map component
  if isAbsolute path then .root :: body
  else if parts.head? == some "." then .current :: body
  else body

/-- Drops the segments that make up a number of steps. -/
def dropSteps : Nat → List String → List String
  | 0, parts => parts
  | _ + 1, [] => []
  | n + 1, part :: rest => if isVoid part then dropSteps (n + 1) rest else dropSteps n rest

/-- A path without segments at its end that are no step. -/
def trimEnd (parts : List String) : List String :=
  (parts.reverse.dropWhile isVoid).reverse

/-- The text of a path below a base of a number of steps, as it was written. -/
def below (steps : Nat) (path : String) : String :=
  let leading := isAbsolute path || (segments path).head? == some "."
  if steps = 0 then
    -- Nothing is cut off in front, so slashes and dots there stay as they were written.
    match segments path with
    | [] => ""
    | first :: rest =>
      let kept := trimEnd rest
      if isAbsolute path && kept.isEmpty then "/"
      else if leading || !isVoid first then ofSegments (first :: kept)
      else ofSegments kept
  else
    let body := if leading then dropSteps (steps - 1) ((segments path).drop 1)
      else dropSteps steps (segments path)
    ofSegments (trimEnd (body.dropWhile isVoid))

/-- The part of a path below a base, or the whole path if it is not below. -/
def relativeTo (base path : String) : String :=
  if (components base).isPrefixOf (components path) then below (components base).length path
  else path

/-- The path of something below a directory. An absolute path stays as it is. -/
def append (base path : String) : String :=
  if isAbsolute path then path
  else if base == "" || base.toList.getLast? == some '/' then base ++ path
  else base ++ "/" ++ path

/-- The order of steps: the root, the current and the parent directory, then names. -/
def Component.rank : Component → Nat
  | .root => 0
  | .current => 1
  | .parent => 2
  | .normal _ => 3

/-- The order of steps; names in the order of their characters. -/
def Component.compare (a b : Component) : Ordering :=
  match a, b with
  | .normal x, .normal y => compareOfLessAndEq x y
  | _, _ => Ord.compare a.rank b.rank

/-- The order of paths by their steps. -/
def compareSteps : List Component → List Component → Ordering
  | [], [] => .eq
  | [], _ :: _ => .lt
  | _ :: _, [] => .gt
  | a :: as, b :: bs => (a.compare b).then (compareSteps as bs)

/-- The order in which reports list files. -/
def compare (first second : String) : Ordering :=
  compareSteps (components first) (components second)

end ManifestLint.Path
