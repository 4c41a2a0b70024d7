import ManifestLint.Command.Execute

/-!
# What a command looks at

A command is executed on a file tree, and of a file system only the part has to be loaded that the
command can see: the settings files it may read, and for a check the token files below its path. The
path of a check may hold wildcards, so everything below the part without them is in reach.
-/
namespace ManifestLint.Command

/-- The part of a file system that a command can see. Paths are absolute. -/
structure Reach where
  /-- Files by their paths. They need not be there. -/
  files : List String
  /-- A directory with all token files below it. -/
  tree : Option String
  deriving DecidableEq, Repr

/-- The segments of a path before the first with a wildcard. -/
def literalPart (path : String) : String :=
  let isWild c := c == '*' || c == '?' || c == '['
  Path.ofSegments ((Path.segments path).takeWhile fun segment => !segment.toList.any isWild)

/-- Whether a file has the name of a token file. -/
def isTokenFileName (name : String) : Bool :=
  tokenFileSuffix.toList.isSuffixOf name.toList

/-- What a command line makes a command look at. -/
def reach (env : Environment) (arguments : List String) : Reach :=
  match parse arguments with
  | .error _ => ⟨[], none⟩
  | .ok invocation =>
    let settings (project : String) :=
      (projectFileNames.map (Path.append project ·) ++ env.userFile?.toList
        ++ invocation.config.toList).map env.absolute
    match invocation.action with
    | .check path _ _ _ => ⟨settings path, some (literalPart (env.absolute path))⟩
    | .listRules | .init _ => ⟨settings ".", none⟩

end ManifestLint.Command
