import TraceGraph.Json

/-! Log records: a level, the logger that wrote it, a finished message and an optional context. -/

namespace TraceGraph.Log

/-- Levels are numbers, and the higher ones weigh more. -/
abbrev Level := Int

namespace Level

def debug : Level := 10

def info : Level := 20

def warning : Level := 30

def error : Level := 40

def critical : Level := 50

/-- The levels that have a name, with the names that records show. -/
def named : List (Level × String) :=
  [(critical, "CRITICAL"), (error, "ERROR"), (warning, "WARNING"), (info, "INFO"), (debug, "DEBUG"),
    (0, "NOTSET")]

def name (level : Level) : String :=
  match named.find? (·.1 = level) with
  | some (_, s) => s
  | none => s!"Level {level}"

/-- The level of a name, two of which are only understood and never shown. -/
def ofName? (s : String) : Option Level :=
  ((named.map fun l => (l.2, l.1)) ++ [("FATAL", critical), ("WARN", warning)]).lookup s

end Level

structure Record where
  level : Level
  logger : String
  message : String
  context : Option Json

end TraceGraph.Log
