import ManifestLint.Command.Reach

/-!
# The program

Loads what the command line makes the command look at, executes the command on that, writes the
files it left changed, and prints what it has to say.
-/
namespace ManifestLint.Main

/-- What stands at a place, if anything does. Of files, only those are read that are asked for. -/
def node? (wanted : Bool) (place : Place) : IO (Option Node) := do
  let here := (← IO.currentDir) / place.path
  if ← here.isDir then return some .directory
  if wanted && (← here.pathExists) then return some (.file (← IO.FS.readFile here))
  return none

/-- The names in a directory. -/
def names (place : Place) : IO (List String) := do
  let entries ← ((← IO.currentDir) / place.path).readDir
  return entries.toList.map fun entry => entry.fileName

/-- The token files at and below a place, with the directories they stand in. -/
partial def entriesBelow (place : Place) : IO (List (Place × Node)) := do
  match ← node? (Command.isTokenFileName (place.getLastD "")) place with
  | none => return []
  | some .directory =>
    let inner ← (← names place).mapM fun name => entriesBelow (place ++ [name])
    return (place, .directory) :: inner.flatten
  | some file => return [(place, file)]

/-- Adds to a tree what a path leads to, and the directories on its way. -/
def addPath (t : FileTree) (path : String) : IO FileTree :=
  (Place.way path).foldlM (fun t place => do
    match ← node? true place with
    | none => return t
    | some node => return if (t.node? place).isSome then t else t.put place node) t

/-- Loads what a command can see. -/
def load (reach : Command.Reach) : IO FileTree := do
  let below ← match reach.tree with
    | none => pure []
    | some path => entriesBelow ((Place.way path).getLastD [])
  (reach.files ++ reach.tree.toList).foldlM addPath ⟨below⟩

/-- What a command can ask about its surroundings. -/
def environment : IO Command.Environment := do
  return {
    currentDirectory := (← IO.currentDir).toString
    home := ← IO.getEnv "HOME"
    settingsDirectory := ← IO.getEnv "STYLEGUIDE_LINT_CONFIG_DIR" }

end ManifestLint.Main

open ManifestLint in
/-- Executes the command that the arguments ask for. -/
def main (arguments : List String) : IO UInt32 := do
  let env ← Main.environment
  let before ← Main.load (Command.reach env arguments)
  let outcome := Command.execute env before arguments
  for (place, content) in outcome.files.filesSince before do
    IO.FS.writeFile place.path content
  outcome.output.forM (IO.println ·)
  outcome.error.forM (IO.eprintln ·)
  return outcome.exit.toUInt32
