import ManifestLint.Command.Line
import ManifestLint.Layering.Rule
import ManifestLint.Report.Codec
import ManifestLint.Settings.Basic

/-!
# What commands print

Every text here is printed as it stands, line by line.
-/
namespace ManifestLint.Command

/-- What the program is called. -/
def programName : String := "styleguide-lint"

/-- The names of settings files in a project, in the order in which they are looked for. -/
def projectFileNames : List String := ["styleguide-lint.toml", ".styleguide-lint.toml"]

/-- The colours of words on a terminal. -/
inductive Colour where
  | red
  | yellow
  | blue
  | green
  deriving DecidableEq, Repr

/-- The control sequence that starts a colour. -/
def Colour.start : Colour → String
  | .red => "\x1b[31m"
  | .yellow => "\x1b[33m"
  | .blue => "\x1b[34m"
  | .green => "\x1b[32m"

/-- The control sequence that ends a colour. -/
def colourEnd : String := "\x1b[0m"

/-- A text in colour. -/
def Colour.paint (colour : Colour) (text : String) : String :=
  colour.start ++ text ++ colourEnd

/-- The colour of a severity. -/
def severityColour : Severity → Colour
  | .error => .red
  | .warning => .yellow
  | .info => .blue

/-- A violation in the text form of a report. -/
def violationLines (v : Violation) : List String :=
  let status :=
    if v.fixed then Colour.green.paint "fixed"
    else (severityColour v.severity).paint v.severity.word
  let hint := match v.fixed, v.fixTag with
    | false, some tag => [s!"  = help: fixable with --fix ({tag})"]
    | _, _ => []
  [s!"{v.code} {v.rule} at {v.location.file}:{v.location.line}:{v.location.column}",
    s!"  {status}: {v.message}"] ++ hint ++ [""]

/-- The last line of the text form of a report. -/
def summaryLine (r : Report) : String :=
  let errors := r.count .error
  let warnings := r.count .warning
  let infos := r.count .info
  let colour := if 0 < errors then Colour.red else if 0 < warnings then .yellow else .green
  colour.paint <|
    s!"Found {errors} error(s), {warnings} warning(s), {infos} info(s) " ++
      s!"in {r.filesChecked} file(s), {r.fixesApplied} fixed"

/-- A report in a format. -/
def reportLines (r : Report) : Format → List String
  | .text => r.violations.flatMap violationLines ++ [summaryLine r]
  | .json => [r.encodePretty]
  | .compact => r.outstanding.map Violation.line

/-- A text filled up with blanks to a width. -/
def column (width : Nat) (text : String) : String :=
  text ++ String.ofList (List.replicate (width - text.length) ' ')

/-- A line of the list of rules. -/
def ruleLine (code name enabled description : String) : String :=
  s!"{column 10 code} {column 25 name} {column 10 enabled} {description}"

/-- The list of rules and conventions. -/
def rulesLines (settings : Settings) : List String :=
  let rule := Layering.info
  let enabled := if settings.isEnabled rule.name then "yes" else "no"
  let c := settings.conventions
  let domains := ", ".intercalate c.disallowedDomains
  ["Available rules:", "",
    ruleLine "Code" "Name" "Enabled" "Description",
    String.ofList (List.replicate 80 '-'),
    ruleLine rule.code rule.name enabled rule.description,
    "", "Conventions:",
    s!"  profile module       {c.profileModule}",
    s!"  role module          {c.roleModule}",
    s!"  role resource        {c.roleResource}",
    s!"  disallowed domains   {domains}",
    "", "Fixable with --fix:"]
    ++ Repair.all.map fun repair => s!"  {repair.tag}"

/-- The settings file that a project starts with. -/
def initialSettings : String :=
  r#"# styleguide-lint configuration

[analyzer]
# Root directory holding the *.tokens.json dumps (default: current directory)
# root = "./manifests"

# Glob patterns to exclude from analysis
exclude = [
    "**/vendor/**",
]

[styleguide]
profile_module = "profile"
role_module = "role"
role_resource = "system::role"

# Modules and classes a profile may include besides other profiles
profile_include_modules = ["passwords"]
profile_include_classes = ["lvs::realserver"]

deprecated_defines = ["base::service_unit"]

# Resource types a node block may still declare
node_allowed_resources = ["interface::add_ip6_mapped"]

# Domains node regexes must not spell out
disallowed_node_domains = ["wmnet", "wikimedia.org"]

[rules.wmf-styleguide]
enabled = true
# severity = "warning"  # Override default severity
"#

/-- What is printed when a settings file has been made. -/
def createdLines (path name : String) : List String :=
  [s!"Created {path}", "", "Next steps:",
    s!"  1. Edit {name} to match your module layout",
    s!"  2. Run: {programName} check"]

/-- The version line. -/
def versionLine : String := s!"{programName} 0.3.0"

/-- What is printed about a malformed command line. -/
def usageLine : String := s!"Usage: {programName} [OPTIONS] <COMMAND>"

/-- The options of every command, as help shows them. -/
def commonOptions : List String :=
  ["  -v, --verbose          Enable verbose output",
    "  -c, --config <CONFIG>  Path to configuration file"]

/-- What help does, in a line. -/
def helpSummary : String := "Print this message or the help of the given subcommand(s)"

/-- What help prints. -/
def helpLines : Topic → List String
  | .program =>
    ["CLI tool for the styleguide-lint Puppet styleguide checker", "",
      usageLine, "", "Commands:",
      "  check       Check every `*.tokens.json` file under a directory",
      "  list-rules  List available rules",
      "  init        Initialize configuration file",
      s!"  help        {helpSummary}", "", "Options:"]
      ++ commonOptions ++
    ["  -h, --help             Print help", "  -V, --version          Print version"]
  | .command .check =>
    ["Check every `*.tokens.json` file under a directory", "",
      s!"Usage: {programName} check [OPTIONS] [PATH]", "", "Arguments:",
      "  [PATH]  Path to analyze (default: current directory) [default: .]", "", "Options:",
      "  -f, --format <FORMAT>    Output format [default: text] "
        ++ "[possible values: text, json, compact]",
      "      --fix                Fix node regexes in place",
      "  -v, --verbose            Enable verbose output",
      "  -e, --exclude <EXCLUDE>  Exclude patterns (can be specified multiple times)",
      "  -c, --config <CONFIG>    Path to configuration file",
      "  -h, --help               Print help"]
  | .command .listRules =>
    ["List available rules", "", s!"Usage: {programName} list-rules [OPTIONS]", "", "Options:"]
      ++ commonOptions ++ ["  -h, --help             Print help"]
  | .command .init =>
    ["Initialize configuration file", "", s!"Usage: {programName} init [OPTIONS]", "", "Options:",
      "      --force            Overwrite existing config"]
      ++ commonOptions ++ ["  -h, --help             Print help"]
  | .help =>
    [helpSummary, "", s!"Usage: {programName} help [COMMAND]...", "", "Arguments:",
      "  [COMMAND]...  Print help for the subcommand(s)"]

end ManifestLint.Command
