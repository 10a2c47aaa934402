import TableQuery.Config.Basic
import TableQuery.Config.Environment
import TableQuery.Yaml.Reader

/-! Where settings come from.

A YAML document is flattened into dotted keys. The environment's variables come over it, each standing
for one key (`overlay`), and a file of variables adds to the environment what it does not set. -/
namespace TableQuery

/-- The settings of a YAML document. -/
def Settings.ofYaml (text : String) : Except ConfigFault Settings :=
  match Yaml.read? text with
  | some document => .ok (document.flatten "")
  | none => .error (.unreadable "malformed document")

/-- What is found where the configuration file should be. -/
inductive ConfigFile where
  | absent
  | directory
  | text (content : String)
deriving Repr, DecidableEq

def ConfigFile.settings : ConfigFile → Except ConfigFault Settings
  | .absent => .ok []
  | .directory => .error (.unreadable "is a directory")
  | .text content => Settings.ofYaml content

namespace ClientConfig

/-- The variables that stand for a key, with their keys. -/
def variableKeys : List (String × String) :=
  [("ROWLINK_URL", urlKey), ("ROWLINK_SCHEMA", schemaKey), ("ROWLINK_API_KEY", apiKeyKey),
    ("ROWLINK_TIMEOUT_MS", timeoutKey), ("ROWLINK_CACHE_TTL_SECS", cacheLifetimeKey),
    ("ROWLINK_CACHE_MAX_ENTRIES", cacheCapacityKey)]

/-- The settings with what the variables say in their place. -/
def overlay (s : Settings) (vars : Environment.Variables) : Settings :=
  variableKeys.foldl (fun s v =>
    match Environment.get? vars v.1 with
    | some value => s.set v.2 value
    | none => s) s

def ofYaml (text : String) : Except ConfigFault ClientConfig := do
  ofSettings (← Settings.ofYaml text)

/-- Reads the configuration from a file, a file of variables and the environment, the last being the
strongest. -/
def load (file : ConfigFile) (variablesFile : Option String) (vars : Environment.Variables) :
    Except ConfigFault ClientConfig := do
  let settings ← file.settings
  let vars := match variablesFile with
    | some text => Environment.defineFile vars text
    | none => vars
  ofSettings (overlay settings vars)

end ClientConfig
end TableQuery
