import ManifestLint.Command.Console
import ManifestLint.Linter.Run
import ManifestLint.Settings.File

/-!
# Executing commands

A command is executed on a file tree. It prints lines, may leave other files behind, and ends with
an exit code: zero when nothing is wrong, one when an error is outstanding or something failed, two
when the command line is malformed.
-/
namespace ManifestLint.Command

/-- What a command can ask about its surroundings. -/
structure Environment where
  currentDirectory : String
  /-- The home directory of the user. -/
  home : Option String
  /-- The directory of the user's settings, if it is not the usual one. -/
  settingsDirectory : Option String
  deriving Repr

/-- What a command comes to. -/
structure Outcome where
  exit : Nat
  /-- What is printed, each text on its own line or lines. -/
  output : List String
  /-- What is printed about a failure. -/
  error : Option String
  files : FileTree
  deriving Repr

/-- A command that failed. -/
def failure (files : FileTree) (message : String) : Outcome :=
  ⟨1, [], some s!"Error: {message}", files⟩

/-- A command that did what was asked for. -/
def success (files : FileTree) (output : List String) : Outcome := ⟨0, output, none, files⟩

namespace Environment

/-- A path as seen from the current directory. -/
def absolute (env : Environment) (path : String) : String := Path.append env.currentDirectory path

/-- The settings file of the user, wherever it is looked for. -/
def userFile? (env : Environment) : Option String :=
  match env.settingsDirectory with
  | some directory => some (Path.append directory "config.toml")
  | none => env.home.map fun home => Path.append (Path.append home ".styleguide-lint") "config.toml"

/-- The settings file for a project: the given one, one in the project, or the user's. A given one
need not be there. -/
def settingsFile? (env : Environment) (files : FileTree) (project : String)
    (given : Option String) : Option String :=
  -- A given file is taken as it is, so that a missing one is noticed.
  given <|>
    (projectFileNames.map (Path.append project ·)).find? (files.isFile <| env.absolute ·) <|>
    env.userFile?.filter (files.isFile <| env.absolute ·)

/-- The settings for a project, or the message about a file that cannot be read. -/
def settings (env : Environment) (files : FileTree) (project : String) (given : Option String) :
    Except String Settings :=
  match env.settingsFile? files project given with
  | none => .ok {}
  | some path =>
    match (files.read? (env.absolute path)).bind Settings.parse? with
    | some settings => .ok settings
    | none => .error s!"Failed to load config: {path}"

end Environment

/-- Checks the token files below a directory and prints a report. -/
def executeCheck (env : Environment) (files : FileTree) (given : Option String) (path : String)
    (format : Format) (fix : Bool) (exclude : List String) : Outcome :=
  match env.settings files path given with
  | .error message => failure files message
  | .ok settings =>
    let linter := Linter.new env.currentDirectory (some path) (some settings)
      [Layering.rule settings.conventions] exclude fix false
    let run := linter.run files
    match run.result with
    | .error _ => failure run.files "Analysis failed"
    | .ok report =>
      ⟨if report.hasErrors then 1 else 0, reportLines report format, none, run.files⟩

/-- Prints the rules and conventions. -/
def executeListRules (env : Environment) (files : FileTree) (given : Option String) : Outcome :=
  match env.settings files "." given with
  | .error message => failure files message
  | .ok settings => success files (rulesLines settings)

/-- Makes a settings file in the current directory. One that is there is only written over when that
is asked for. -/
def executeInit (env : Environment) (files : FileTree) (force : Bool) : Outcome :=
  let name := projectFileNames.headD ""
  let path := Path.append "." name
  if (files.lookup? (env.absolute path)).isSome && !force then
    failure files
      s!"Configuration file already exists at {path}. Use --force to overwrite."
  else
    match files.write? (env.absolute path) initialSettings with
    | none => failure files "Is a directory (os error 21)"
    | some files => success files (createdLines path name)

/-- Executes what a command line asks for. -/
def execute (env : Environment) (files : FileTree) (arguments : List String) : Outcome :=
  match parse arguments with
  | .error .usage => ⟨2, [], some usageLine, files⟩
  | .error .version => success files [versionLine]
  | .error (.help topic) => success files (helpLines topic)
  | .ok invocation =>
    match invocation.action with
    | .check path format fix exclude =>
      executeCheck env files invocation.config path format fix exclude
    | .listRules => executeListRules env files invocation.config
    | .init force => executeInit env files force

end ManifestLint.Command
