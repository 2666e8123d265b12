import TraceGraph.Service
import TraceGraph.Settings

/-! Launching the service: from the environment to the log, the simulator and the server. -/

namespace TraceGraph

/-- What the service is launched with. -/
structure Launch where
  settings : Settings
  /-- Where the capabilities file is, if there is one. -/
  capabilitiesPath : Option String

namespace Launch

/-- The file from which the environment is completed. -/
def environmentFile : String := ".env"

def title : String := "System View API"

def version : String := "0.1.0"

def ofEnvironment (env : Environment) : Except SettingsError Launch := do
  let settings ← Settings.ofEnvironment env
  return ⟨settings, TraceGraph.capabilitiesPath env none⟩

/-- The simulator that is started through the control requests, with the picks to come. -/
def simulator (l : Launch) (picks : List Int) : Simulator :=
  Simulator.new l.settings.apiUrl l.settings.simRounds (.real l.settings.simInterval) picks

def service (l : Launch) (picks : List Int) : Service :=
  Service.new (Session.new l.capabilitiesPath) (some (l.simulator picks))

end Launch

end TraceGraph
