import Outband.Config.Layout
import Outband.Files
import Outband.Json.Reader
import Outband.Text.Casing
import Outband.Toml.Reader
import Outband.Yaml.Reader
/-! Loading the settings: files laid over each other, and variables of the environment last. The
parsers of the files' formats are given from outside. -/

namespace Outband

/-- Variables and their values. -/
abbrev Environment := List (String × String)

inductive LoadError where
  /-- The file that was asked for does not exist. -/
  | notFound (path : String)
  | unreadable (path : String)
  | unparsable (path : String)
  /-- The parser of the file's format refuses it. -/
  | malformed (path : String)
  /-- A value has the wrong type for its place. -/
  | layout
  deriving DecidableEq, Repr

def LoadError.message : LoadError → String
  | .notFound path => "Config file not found: " ++ path
  | .unreadable path => "Failed to read config file: " ++ path
  | .unparsable path => "Failed to parse config file: " ++ path
  | .malformed path => "malformed config file: " ++ path
  | .layout => "Configuration does not match the expected layout"

namespace Config

/-- The parsers of the formats of files, each with the values that it reads a text as, or none for a
text that it refuses. -/
structure Formats where
  json : String → Option Json
  toml : String → Option Json
  yaml : String → Option Json

/-- Parsers of plain documents. They know no dates in TOML, and in YAML no block scalars, no anchors
and no tags. -/
def Formats.plain : Formats where
  json content := Json.parse? (Text.bytesOf content)
  toml := Toml.parse?
  yaml := Yaml.parse?

/-- Names a settings file that takes the place of the others. -/
def fileVariable : String := "BMC_ACTOR_CONFIG"

def systemFile : String := "/etc/bmc-actor/actor.toml"

def homeFile : String := ".bmc-actor.toml"

def projectFile : String := "actor.toml"

def homeVariable : String := "HOME"

/-- The user's home directory, or else the one that the password database has on record. -/
def homeDirectory (env : Environment) (onRecord : Option String) : Option String :=
  ((env.lookup homeVariable).filter (· != "")).or onRecord

/-- The files to load when none is given, from the weakest to the strongest. -/
def standardFiles (env : Environment) (onRecord : Option String) : List String :=
  match env.lookup fileVariable with
  | some path => [path]
  | none =>
    [systemFile] ++ ((homeDirectory env onRecord).map (Path.join · homeFile)).toList ++
      [projectFile]

/-- The values in a file. Its extension gives the format. Without a known one it is TOML, or else
YAML. -/
def parseFile (formats : Formats) (path content : String) : Except LoadError Json :=
  let orElse (fault : LoadError) : Option Json → Except LoadError Json
    | some tree => .ok tree
    | none => .error fault
  match (Path.extension? path).getD "" with
  | "yml" | "yaml" => orElse (.malformed path) (formats.yaml content)
  | "json" => orElse (.malformed path) (formats.json content)
  | "toml" => orElse (.unparsable path) (formats.toml content)
  | _ => orElse (.unparsable path) ((formats.toml content).or (formats.yaml content))

def readFile (formats : Formats) (files : Files) (path : String) : Except LoadError Json :=
  match (files.read path).toOption.bind Text.decode? with
  | some content => parseFile formats path content
  | none => .error (.unreadable path)

/-- Lays the files that exist over a tree, one after the other. -/
def layFiles (formats : Formats) (files : Files) (tree : Json) :
    List String → Except LoadError Json
  | [] => .ok tree
  | path :: rest =>
    if files.exists? path then do
      layFiles formats files (tree.overlay (← readFile formats files path)) rest
    else layFiles formats files tree rest

/-- The values of the switch that turn it on, in any case. -/
def isOn (value : String) : Bool := ["1", "true", "yes"].contains (Text.lowerCase value)

/-- The variables that take the place of settings, and what each sets. -/
def overrides : List (String × (String → Config → Config)) :=
  [("BMC_ACTOR_BIND_TO", fun value c => { c with server.bindTo := value }),
    ("BMC_ACTOR_BMC_USER", fun value c => { c with bmc.username := value }),
    ("BMC_ACTOR_BMC_PASS", fun value c => { c with bmc.password := value }),
    ("BMC_ACTOR_SCREENSHOT_STORAGE", fun value c => { c with screenshot.storage := value }),
    ("BMC_ACTOR_S3_ENABLED", fun value c => { c with s3.enabled := isOn value }),
    ("BMC_ACTOR_LOG_LEVEL", fun value c => { c with logging.level := value })]

def withEnvironment (env : Environment) (c : Config) : Config :=
  overrides.foldl (fun c (name, set) =>
    match env.lookup name with
    | some value => set value c
    | none => c) c

/-- The settings from these files. -/
def ofFiles (formats : Formats) (files : Files) (env : Environment) (paths : List String) :
    Except LoadError Config := do
  let tree ← layFiles formats files (.object []) paths
  match ofJson? tree with
  | some c => .ok (c.withEnvironment env)
  | none => .error .layout

/-- The variables that loading looks at. -/
def variableNames : List String := [fileVariable, homeVariable] ++ overrides.map (·.1)

/-- Loads the settings, from the one file that is given or else from the standard ones. A file
that is given has to exist. -/
def load (formats : Formats) (files : Files) (env : Environment) (onRecord : Option String) :
    Option String → Except LoadError Config
  | some path =>
    if files.exists? path then ofFiles formats files env [path] else .error (.notFound path)
  | none => ofFiles formats files env (standardFiles env onRecord)

end Config

end Outband
