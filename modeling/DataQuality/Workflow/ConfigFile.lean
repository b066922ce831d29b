import DataQuality.Files
import DataQuality.Json.Reader
import DataQuality.Toml.Reader
import DataQuality.Workflow.Config
import DataQuality.Yaml.Reader

/-!
# Workflow files

A workflow file is YAML, JSON or TOML, by the extension of its name. Reading it and judging what
it says are separate steps.
-/

namespace DataQuality

/-- A notation of workflow files. -/
inductive ConfigFormat where
  | yaml
  | json
  | toml
  deriving DecidableEq, Repr

namespace ConfigFormat

/-- The notation that an extension stands for; case does not count. -/
def ofExtension? (extension : String) : Option ConfigFormat :=
  match String.ofList (extension.toList.map Char.toLower) with
  | "yaml" => some .yaml
  | "yml" => some .yaml
  | "json" => some .json
  | "toml" => some .toml
  | _ => none

def ofPath? (path : String) : Option ConfigFormat :=
  (Files.extension? path).bind ofExtension?

def readDocument : ConfigFormat → String → Document
  | .yaml => Yaml.readDocument
  | .json => Json.readDocument
  | .toml => Toml.readDocument

end ConfigFormat

/-- Why there is no configuration. -/
inductive ConfigError where
  | file (path : String) (cause : FileError)
  /-- The text is not a configuration in its notation. -/
  | unreadable (format : ConfigFormat) (cause : DecodeError)
  | unsupportedFormat (path : String)
  | invalid (cause : InvalidConfig)
  deriving Repr

/-- The wording of an error; of an error met while reading, only its kind. -/
def ConfigError.message : ConfigError → String
  | .file path cause => s!"Failed to read config file {path}: {cause.message}"
  | .unreadable .yaml _ => "Invalid YAML"
  | .unreadable .json _ => "Invalid JSON"
  | .unreadable .toml _ => "Invalid TOML"
  | .unsupportedFormat path => s!"Unsupported config format: {path}"
  | .invalid cause => s!"Invalid configuration: {cause.message}"

namespace WorkflowConfig

def parse (text : String) (format : ConfigFormat) : Except ConfigError WorkflowConfig :=
  match decoder.run (format.readDocument text) with
  | .ok config => .ok config
  | .error cause => .error (.unreadable format cause)

def fromFile (files : Files) (path : String) : Except ConfigError WorkflowConfig :=
  match ConfigFormat.ofPath? path with
  | none => .error (.unsupportedFormat path)
  | some format =>
      match files.readText path with
      | .error cause => .error (.file path cause)
      | .ok text => parse text format

def check (config : WorkflowConfig) : Except ConfigError Unit :=
  match config.validate with
  | .error cause => .error (.invalid cause)
  | .ok () => .ok ()

def load (files : Files) (path : String) : Except ConfigError WorkflowConfig :=
  match fromFile files path with
  | .error e => .error e
  | .ok config =>
      match config.check with
      | .error e => .error e
      | .ok () => .ok config

end WorkflowConfig

end DataQuality
