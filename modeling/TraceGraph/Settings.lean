import TraceGraph.Number
import TraceGraph.Numeral.Integer
import TraceGraph.Path
import TraceGraph.Text.Casing

/-! Settings of the service, read from environment variables. -/

namespace TraceGraph

/-- The value of each variable that is set. -/
abbrev Environment := String → Option String

inductive SettingsError
  | integer (e : Numeral.IntegerError)
  | real (source : String)

def SettingsError.message : SettingsError → String
  | integer e => e.message
  | real s => "could not convert string to float: " ++ Text.quoted s

structure Settings where
  apiHost : String
  apiPort : Int
  logLevel : String
  logFormat : String
  /-- The level of the view's own logger, if it is set apart. -/
  engineLogLevel : Option String
  simRounds : Int
  simInterval : Binary64

namespace Settings

/-- The variables that settings are read from. -/
def variableNames : List String :=
  ["API_HOST", "API_PORT", "LOG_LEVEL", "LOG_FORMAT", "SYSVIEW_ENGINE_LOG_LEVEL", "SIM_ROUNDS",
    "SIM_INTERVAL", "SYSVIEW_CAPABILITIES"]

def integer (env : Environment) (name fallback : String) : Except SettingsError Int :=
  (Numeral.integer ((env name).getD fallback)).mapError .integer

def real (env : Environment) (name fallback : String) : Except SettingsError Binary64 :=
  let s := (env name).getD fallback
  match Numeral.real? s with
  | some x => .ok x
  | none => .error (.real s)

/-- An empty text counts as none. -/
def nonempty (s : Option String) : Option String := s.filter (· ≠ "")

def ofEnvironment (env : Environment) : Except SettingsError Settings := do
  let apiPort ← integer env "API_PORT" "8000"
  let simRounds ← integer env "SIM_ROUNDS" "10"
  let simInterval ← real env "SIM_INTERVAL" "1.0"
  return {
    apiHost := (env "API_HOST").getD "localhost"
    apiPort
    logLevel := Text.upper ((env "LOG_LEVEL").getD "INFO")
    logFormat := Text.lower ((env "LOG_FORMAT").getD "json")
    engineLogLevel := nonempty (env "SYSVIEW_ENGINE_LOG_LEVEL")
    simRounds
    simInterval }

def apiUrl (s : Settings) : String := s!"http://{s.apiHost}:{s.apiPort}"

end Settings

/-- Where relative paths start. -/
def projectRoot : String := "/project"

/-- The capabilities file: the path given, or else that of the environment; an empty path is none. -/
def capabilitiesPath (env : Environment) (given : Option String) : Option String :=
  (Settings.nonempty (given <|> env "SYSVIEW_CAPABILITIES")).map (Path.under projectRoot)

end TraceGraph
