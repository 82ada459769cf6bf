import Annotations.Config.EnvFile
import Annotations.Config.Files
import Annotations.Config.Override
import Annotations.Document.Json
import Annotations.Document.Toml

/-!
Loading a configuration in layers. Presets, texts and files replace the whole configuration; the
variables of files and, under a lead-in, of the environment override single settings at the end.
-/
namespace Annotations

/-- What a loader can read from. -/
structure Surroundings where
  files : Files := []
  /-- The variables of the environment, each name once. -/
  env : Entries String := []
deriving Inhabited

structure Loader where
  config : Config := {}
  /-- The lead-in of variables, once one is set. -/
  lead : Option String := none
  /-- Variables of files, which wait for the end. -/
  vars : List (String × String) := []
  fileLoaded : Bool := false
deriving DecidableEq, Repr, Inhabited

/-- A call on a loader. -/
inductive Layer where
  | defaults
  | development
  | production
  | text (content style : String)
  | file (path : String)
  | optionalFile (path : String)
  | envFile
  | envFileAt (path : String)
  | lead (name : String)
  | vars (given : List (String × String))
deriving DecidableEq, Repr

namespace Loader

/-- The lead-in that counts where none is set. -/
def defaultLead : String := "STELE"

def leadIn (loader : Loader) : String := loader.lead.getD defaultLead

/-- A configuration in TOML. -/
def parseToml (content : String) : Except ConfigError Config :=
  match (Document.Toml.ofText? content).bind (Config.ofDocument? .toml) with
  | some config => .ok config
  | none => .error .badToml

/-- A configuration in JSON. -/
def parseJson (content : String) : Except ConfigError Config :=
  match (Document.Json.ofText? content).bind (Config.ofDocument? .json) with
  | some config => .ok config
  | none => .error .badJson

/-- A configuration in the notation of a name, which may be in any case. -/
def parse (name : Option String) (unsupported : ConfigError) (content : String) :
    Except ConfigError Config :=
  match name.map Text.lower with
  | some "toml" => parseToml content
  | some "json" => parseJson content
  | _ => .error unsupported

/-- The configuration of a file. -/
def readFile (around : Surroundings) (path : String) : Except ConfigError Config :=
  match around.files.find? path with
  | none => .error (.fileNotFound path)
  | some (.text content) =>
    parse (Files.extension? path)
      (.invalid ("unsupported configuration file format: " ++ path)) content
  | some _ => .error (.unreadable path)

/-- The variables of a file. -/
def readVariables (around : Surroundings) : FileContent → Except ConfigError (List (String × String))
  | .text content =>
    match EnvFile.ofText? around.env content with
    | some found => .ok found
    | none => .error .badEnvFile
  | _ => .error .badEnvFile

def addVariables (loader : Loader) (around : Surroundings) (content : FileContent) :
    Except ConfigError Loader := do
  return { loader with vars := loader.vars ++ (← readVariables around content) }

/-- One call on a loader. -/
def add (around : Surroundings) (loader : Loader) : Layer → Except ConfigError Loader
  | .defaults => .ok { loader with config := {} }
  | .development => .ok { loader with config := .development }
  | .production => .ok { loader with config := .production }
  | .text content name => do
    let config ← parse (some name) (.invalid ("unsupported configuration format: " ++ name)) content
    return { loader with config }
  | .file path => do
    return { loader with config := ← readFile around path, fileLoaded := true }
  | .optionalFile path =>
    if (around.files.find? path).isSome then do
      return { loader with config := ← readFile around path, fileLoaded := true }
    else .ok loader
  | .envFile =>
    match around.files.find? ".env" with
    | none | some .folder => .ok loader
    | some content => loader.addVariables around content
  | .envFileAt path =>
    match around.files.find? path with
    | none => .error (.fileNotFound path)
    | some content => loader.addVariables around content
  | .lead name => .ok { loader with lead := some (Text.upper name) }
  | .vars given => do
    return { loader with config := ← Override.applyAll loader.leadIn loader.config given }

/-- Calls one after another. -/
def addAll (around : Surroundings) (loader : Loader) (layers : List Layer) : Except ConfigError Loader :=
  layers.foldlM (add around) loader

/-- The finished configuration: the variables of files first, then those of the environment in name
order if a lead-in is set; what comes out has to be valid. -/
def load (around : Surroundings) (loader : Loader) : Except ConfigError Config := do
  let config ← Override.applyAll loader.leadIn loader.config loader.vars
  let config ← if loader.lead.isSome then
      Override.applyAll loader.leadIn config (Entries.sorted around.env)
    else pure config
  config.validated

end Loader
end Annotations
