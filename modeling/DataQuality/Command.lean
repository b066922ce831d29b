import DataQuality.Workflow.Create

/-!
# The command line

Two commands: one runs the workflow of a file, the other only reads the file and judges it. A
command line that is neither ends with code 2, a command that fails with code 1.
-/

namespace DataQuality

/-- What the help is about. -/
inductive HelpTopic where
  | commands
  | run
  | validate
  | help
  deriving DecidableEq, Repr

/-- What a command line asks for. -/
inductive Command where
  | run (path : String) (strict : Bool)
  | validate (path : String)
  | help (topic : HelpTopic)
  deriving DecidableEq, Repr

namespace Command

/-- The path of the workflow file that a command is about. -/
def path? : Command → Option String
  | .run path _ => some path
  | .validate path => some path
  | .help _ => none

/-- What the options of a command gave so far. -/
structure Options where
  config : Option String := none
  strict : Bool := false

/-- What a part of a command line asks for. -/
inductive Parsed where
  | options (options : Options)
  | help
  | wrong

/-- Whether an argument can be the value of an option: it is not empty and no option itself. -/
def isValue (argument : String) : Bool :=
  argument == "-" || (argument != "" && !"-".toList.isPrefixOf argument.toList)

/-- Takes the value of the option for the file; it may be given once. -/
def withConfig (options : Options) (value : String) : Option Options :=
  if options.config.isSome ∨ value = "" then none else some { options with config := some value }

def after? (start : String) (argument : String) : Option String :=
  if start.toList.isPrefixOf argument.toList then
    some (String.ofList (argument.toList.drop start.length))
  else none

/-- Whether an argument is a group of one-letter options of which the first asks for help. -/
def asksForHelp (argument : String) : Bool :=
  argument == "--help" || "-h".toList.isPrefixOf argument.toList

/-- Reads the options of a command. The option for strictness belongs to one of them only. After
`--` there are no more options, and no command takes anything else. -/
def parseOptions (strictAllowed : Bool) (options : Options) : List String → Parsed
  | [] => .options options
  | "--strict" :: rest =>
      if strictAllowed && !options.strict then
        parseOptions strictAllowed { options with strict := true } rest
      else .wrong
  | "--config" :: rest => parseValue strictAllowed options rest
  | "-c" :: rest => parseValue strictAllowed options rest
  | "--" :: rest => if rest.isEmpty then .options options else .wrong
  | argument :: rest =>
      if asksForHelp argument then .help
      else
        let value? := after? "--config=" argument <|> after? "-c=" argument <|> after? "-c" argument
        match value?.bind (withConfig options) with
        | some options => parseOptions strictAllowed options rest
        | none => .wrong
where
  /-- Reads the value of the option for the file, and the options after it. -/
  parseValue (strictAllowed : Bool) (options : Options) : List String → Parsed
    | [] => .wrong
    | value :: rest =>
        match if isValue value then withConfig options value else none with
        | some options => parseOptions strictAllowed options rest
        | none => .wrong

/-- Reads a command line; none if it asks for nothing that there is. -/
def parse? : List String → Option Command
  | [] => none
  | ["help"] => some (.help .commands)
  | ["help", "run"] => some (.help .run)
  | ["help", "validate"] => some (.help .validate)
  | ["help", "help"] => some (.help .help)
  | "run" :: arguments =>
      match parseOptions true {} arguments with
      | .help => some (.help .run)
      | .options options => options.config.map fun path => .run path options.strict
      | .wrong => none
  | "validate" :: arguments =>
      match parseOptions false {} arguments with
      | .help => some (.help .validate)
      | .options options => options.config.map .validate
      | .wrong => none
  | argument :: _ => if asksForHelp argument then some (.help .commands) else none

def helpLines : HelpTopic → List String
  | .commands =>
      ["Run data quality test suites against a metadata catalog",
        "",
        "Usage: testsuite <COMMAND>",
        "",
        "Commands:",
        "  run       Run the workflow described by a config file",
        "  validate  Parse and validate a workflow config file",
        "  help      Print this message or the help of the given subcommand(s)",
        "",
        "Options:",
        "  -h, --help  Print help"]
  | .run =>
      ["Run the workflow described by a config file",
        "",
        "Usage: testsuite run [OPTIONS] --config <CONFIG>",
        "",
        "Options:",
        "  -c, --config <CONFIG>  Workflow config file (.yaml, .yml, .json or .toml)",
        "      --strict           Treat warnings as failures",
        "  -h, --help             Print help"]
  | .validate =>
      ["Parse and validate a workflow config file",
        "",
        "Usage: testsuite validate --config <CONFIG>",
        "",
        "Options:",
        "  -c, --config <CONFIG>  Workflow config file (.yaml, .yml, .json or .toml)",
        "  -h, --help             Print help"]
  | .help =>
      ["Print this message or the help of the given subcommand(s)",
        "",
        "Usage: testsuite help [COMMAND]...",
        "",
        "Arguments:",
        "  [COMMAND]...  Print help for the subcommand(s)"]

/-- What a command leaves behind: an exit code and what it printed, or an error. -/
inductive Outcome where
  | done (code : Nat) (printed : String)
  | failed (message : String)

def Outcome.code : Outcome → Nat
  | .done code _ => code
  | .failed _ => 1

def Outcome.printed : Outcome → String
  | .done _ printed => printed
  | .failed _ => ""

/-- The exit code of a command line that asks for nothing that there is. -/
def usageCode : Nat := 2

/-- Lines, every one of them ended. -/
def lines (texts : List String) : String :=
  String.join (texts.map fun line => line ++ "\n")

variable {σ : Type}

/-- Runs a workflow and reports on it. -/
def runWorkflow (station : Part σ Station) (clock : Effect σ Int64) (config : WorkflowConfig)
    (strict : Bool) : Effect σ Outcome := do
  match ← (Workflow.create station clock config).run with
  | .error e => return .failed e.message
  | .ok workflow =>
      let (ended, status) ← workflow.run.run {}
      match ended with
      | .error e =>
          Effect.log .error s!"Workflow failed: {e.message}"
          return .failed e.message
      | .ok () =>
          let world ← get
          let report := workflow.report status world.state
          match report.raise strict with
          | .error e => Effect.log .error e.message
          | .ok () => pure ()
          return .done (report.exitCode strict) (report.render strict)

/-- Carries out a command. -/
def perform (station : Part σ Station) (clock : Effect σ Int64) (command : Command) :
    Effect σ Outcome := do
  let world ← get
  let files := (station.get world.state).desk.files
  match command with
  | .help topic => return .done 0 (lines (helpLines topic))
  | .validate path =>
      match WorkflowConfig.load files path with
      | .error e => return .failed e.message
      | .ok config =>
          let count := config.testSuites.length
          return .done 0 s!"{path} is valid: {count} test suites declared\n"
  | .run path strict =>
      match WorkflowConfig.fromFile files path with
      | .error e => return .failed e.message
      | .ok config =>
          Effect.log .info s!"Loaded workflow config from {path}"
          runWorkflow station clock config strict

end Command

end DataQuality
