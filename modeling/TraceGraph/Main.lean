import TraceGraph.Launch
import TraceGraph.Service.Wire

/-! The program: the service over standard input and output, one request or response a line. It is set
up by environment variables and ends with the input. -/

namespace TraceGraph.Main

/-- The environment restricted to the variables that settings are read from. -/
def environment : IO Environment := do
  let values ← Settings.variableNames.mapM fun name => do return (name, ← IO.getEnv name)
  return fun name => (values.lookup name).join

/-- The file at a path, if it can be read. -/
def files (path : Option String) : IO Files := do
  match path with
  | none => return fun _ => none
  | some path =>
    let text ← try some <$> IO.FS.readFile path catch _ => pure none
    return fun p => if p = path then text else none

/-- Random picks for the simulator. -/
def picks (count : Nat) : IO (List Int) :=
  (List.range count).mapM fun _ => return ((← IO.rand 0 999999999 : Nat) : Int)

partial def answerLines (input output : IO.FS.Stream) (s : Service) : IO Unit := do
  let line ← input.getLine
  if line.isEmpty then return
  let (s, answer) := s.exchange line.trimAsciiEnd.toString
  if let some text := answer then
    output.putStrLn text
    output.flush
  answerLines input output s

def fail (message : String) : IO UInt32 := do
  IO.eprintln message
  return 1

def run : IO UInt32 := do
  match Launch.ofEnvironment (← environment) with
  | .error e => fail e.message
  | .ok launch =>
    let (s, started) := (launch.service (← picks 10000)).startup (← files launch.capabilitiesPath)
    match started with
    | .error e => fail e.message
    | .ok () =>
      answerLines (← IO.getStdin) (← IO.getStdout) s
      return 0

end TraceGraph.Main

def main : IO UInt32 := TraceGraph.Main.run
