/-!
# The command line

Arguments are taken from left to right, and the first problem decides: it stops the reading with a
usage error, unless a request for help or for the version came before it. Options may stand before
and after the name of the command; of an option for every command, the one after the name counts.
-/
namespace ManifestLint.Command

/-- How a report is printed. -/
inductive Format where
  | text
  | json
  | compact
  deriving DecidableEq, Repr

/-- The format of a word. -/
def Format.ofWord? : String → Option Format
  | "text" => some .text
  | "json" => some .json
  | "compact" => some .compact
  | _ => none

/-- The commands. -/
inductive Verb where
  | check
  | listRules
  | init
  deriving DecidableEq, Repr

/-- The command of a word. -/
def Verb.ofWord? : String → Option Verb
  | "check" => some .check
  | "list-rules" => some .listRules
  | "init" => some .init
  | _ => none

/-- What is asked for. -/
inductive Action where
  | check (path : String) (format : Format) (fix : Bool) (exclude : List String)
  | listRules
  | init (force : Bool)
  deriving DecidableEq, Repr

/-- A complete command line. -/
structure Invocation where
  verbose : Bool
  config : Option String
  action : Action
  deriving DecidableEq, Repr

/-- What help is about. -/
inductive Topic where
  /-- The program with all its commands. -/
  | program
  /-- One command. -/
  | command (verb : Verb)
  /-- Help itself. -/
  | help
  deriving DecidableEq, Repr

/-- Help that is asked for by an option is about the command before it, if there is one. -/
def Topic.ofVerb : Option Verb → Topic
  | none => .program
  | some verb => .command verb

/-- Why there is nothing to do. -/
inductive Stop where
  /-- The command line is malformed. -/
  | usage
  /-- Help was asked for. -/
  | help (topic : Topic)
  /-- The version was asked for. -/
  | version
  deriving DecidableEq, Repr

/-- The options of all commands. -/
inductive Opt where
  | verbose
  | config
  | help
  | version
  | format
  | fix
  | exclude
  | force
  deriving DecidableEq, Repr

namespace Opt

/-- Whether an option takes a value. -/
def takesValue : Opt → Bool
  | .config | .format | .exclude => true
  | _ => false

/-- The options that may stand after the name of a command, or before it. -/
def allowed : Option Verb → List Opt
  | none => [.verbose, .config, .help, .version]
  | some .check => [.verbose, .config, .help, .format, .fix, .exclude]
  | some .listRules => [.verbose, .config, .help]
  | some .init => [.verbose, .config, .help, .force]

/-- The long name of an option. -/
def long : Opt → String
  | .verbose => "verbose"
  | .config => "config"
  | .help => "help"
  | .version => "version"
  | .format => "format"
  | .fix => "fix"
  | .exclude => "exclude"
  | .force => "force"

/-- The one-letter name of an option. -/
def short? : Opt → Option Char
  | .verbose => some 'v'
  | .config => some 'c'
  | .help => some 'h'
  | .version => some 'V'
  | .format => some 'f'
  | .exclude => some 'e'
  | .fix | .force => none

end Opt

/-- The options and arguments seen on one side of the name of the command. -/
structure Given where
  verbose : Bool := false
  config : Option String := none
  format : Option Format := none
  fix : Bool := false
  exclude : List String := []
  force : Bool := false
  path : Option String := none
  deriving DecidableEq, Repr

namespace Given

/-- Takes in an option without a value. None may be given twice on one side. -/
def flag (given : Given) (verb : Option Verb) : Opt → Except Stop Given
  | .help => .error (.help (.ofVerb verb))
  | .version => .error .version
  | .verbose => if given.verbose then .error .usage else .ok { given with verbose := true }
  | .fix => if given.fix then .error .usage else .ok { given with fix := true }
  | .force => if given.force then .error .usage else .ok { given with force := true }
  | _ => .error .usage

/-- Takes in an option with its value. A file name must not be empty, and only exclusions may be
given more than once on one side. -/
def option (given : Given) (value : String) : Opt → Except Stop Given
  | .config =>
    if given.config.isSome || value.isEmpty then .error .usage
    else .ok { given with config := some value }
  | .format =>
    match given.format, Format.ofWord? value with
    | none, some format => .ok { given with format := some format }
    | _, _ => .error .usage
  | .exclude => .ok { given with exclude := given.exclude ++ [value] }
  | _ => .error .usage

/-- Takes in an argument that is no option. Only a check has one. -/
def argument (given : Given) (verb : Verb) (value : String) : Except Stop Given :=
  if verb = .check && given.path.isNone && !value.isEmpty then
    .ok { given with path := some value }
  else .error .usage

end Given

/-- What an argument is. -/
inductive Argument where
  /-- Two dashes: no options follow. -/
  | endOfOptions
  /-- An option by its long name, perhaps with a value behind an equals sign. -/
  | long (name : List Char) (value : Option (List Char))
  /-- Options by their one-letter names. -/
  | cluster (letters : List Char)
  /-- Anything else. -/
  | plain
  deriving DecidableEq, Repr

/-- What an argument is. -/
def classify : List Char → Argument
  | ['-', '-'] => .endOfOptions
  | '-' :: '-' :: text =>
    match text.dropWhile (· != '=') with
    | [] => .long text none
    | _ :: value => .long (text.takeWhile (· != '=')) (some value)
  | ['-'] => .plain
  | '-' :: letters => .cluster letters
  | _ => .plain

/-- What reading one argument leaves to do. -/
inductive Progress where
  /-- Go on with the next argument. -/
  | done (given : Given)
  /-- The next argument is the value of an option. -/
  | awaits (given : Given) (opt : Opt)

/-- Reads an option by its long name. -/
def readLong (verb : Option Verb) (given : Given) (name : List Char) (value : Option (List Char)) :
    Except Stop Progress :=
  match (Opt.allowed verb).find? fun opt => opt.long.toList == name with
  | none => .error .usage
  | some opt =>
    match opt.takesValue, value with
    | true, some value => (given.option (String.ofList value) opt).map .done
    | true, none => .ok (.awaits given opt)
    | false, none => (given.flag verb opt).map .done
    | false, some _ => .error .usage

/-- Reads options by their one-letter names. The letters behind one that takes a value are that
value, after an equals sign if there is one. -/
def readCluster (verb : Option Verb) (given : Given) : List Char → Except Stop Progress
  | [] => .ok (.done given)
  | letter :: rest =>
    match (Opt.allowed verb).find? fun opt => opt.short? == some letter with
    | none => .error .usage
    | some opt =>
      if opt.takesValue then
        match rest with
        | [] => .ok (.awaits given opt)
        | '=' :: value => (given.option (String.ofList value) opt).map .done
        | value => (given.option (String.ofList value) opt).map .done
      else
        match given.flag verb opt with
        | .error stop => .error stop
        | .ok given => readCluster verb given rest

/-- Reads an option in whatever form. -/
def readOption (verb : Option Verb) (given : Given) : Argument → Except Stop Progress
  | .long name value => readLong verb given name value
  | .cluster letters => readCluster verb given letters
  | _ => .error .usage

/-- The value of an option must be a plain argument. -/
def readValue (given : Given) (opt : Opt) (value : String) : Except Stop Given :=
  if classify value.toList = .plain then given.option value opt else .error .usage

/-- Reads the arguments after the name of a command. `awaited` is an option whose value comes next,
and `plainOnly` tells that no options follow. -/
def readArguments (verb : Verb) (plainOnly : Bool) (awaited : Option Opt) (given : Given) :
    List String → Except Stop Given
  | [] => if awaited.isSome then .error .usage else .ok given
  | text :: rest =>
    match awaited with
    -- A value belongs to the option before it, even if it is the name of a file or a command.
    | some opt => do readArguments verb plainOnly none (← readValue given opt text) rest
    | none =>
      if plainOnly then do readArguments verb true none (← given.argument verb text) rest
      else
        match classify text.toList with
        | .endOfOptions => readArguments verb true none given rest
        | .plain => do readArguments verb false none (← given.argument verb text) rest
        | argument => do
          match ← readOption (some verb) given argument with
          | .done given => readArguments verb false none given rest
          | .awaits given opt => readArguments verb false (some opt) given rest

/-- What help is asked about by name: by no name about the program, by one about that command. -/
def helpAbout : List String → Stop
  | [] => .help .program
  | ["help"] => .help .help
  | [name] =>
    match Verb.ofWord? name with
    | some verb => .help (.command verb)
    | none => .usage
  | _ => .usage

/-- The action of a command with its options. -/
def action (given : Given) : Verb → Action
  | .check =>
    .check (given.path.getD ".") (given.format.getD .text) given.fix given.exclude
  | .listRules => .listRules
  | .init => .init given.force

/-- Reads the arguments from the first on: options, then the name of a command. -/
def readCommand (awaited : Option Opt) (given : Given) : List String → Except Stop Invocation
  | [] => .error .usage
  | text :: rest =>
    match awaited with
    | some opt => do readCommand none (← readValue given opt text) rest
    | none =>
      match classify text.toList with
      | .endOfOptions => .error .usage
      | .plain =>
        if text == "help" then .error (helpAbout rest)
        else
          match Verb.ofWord? text with
          | none => .error .usage
          | some verb => do
            let inner ← readArguments verb false none {} rest
            .ok {
              -- What stands after the name of the command wins.
              verbose := given.verbose || inner.verbose
              config := inner.config <|> given.config
              action := action inner verb }
      | argument => do
        match ← readOption none given argument with
        | .done given => readCommand none given rest
        | .awaits given opt => readCommand (some opt) given rest

/-- Reads a command line. -/
def parse (arguments : List String) : Except Stop Invocation := readCommand none {} arguments

end ManifestLint.Command
