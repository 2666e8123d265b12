import TraceGraph.Log.Message
import TraceGraph.Log.Record
import TraceGraph.Text.Casing

/-! Configuration of the service's log. The log file always gets JSON lines, the console JSON or plain
text, and the view's own logger may have a level apart from the rest. -/

namespace TraceGraph.Log

inductive ConfigError
  | unknownFormat (name : String)
  | logger (name : String)
  | root

def ConfigError.message : ConfigError → String
  | unknownFormat name => s!"Unknown console format: {name}"
  | logger name => s!"Unable to configure logger '{name}'"
  | root => "Unable to configure root logger"

inductive ConsoleFormat
  | json
  | text
  deriving DecidableEq

namespace ConsoleFormat

def name : ConsoleFormat → String
  | json => "json"
  | text => "text"

def ofName (s : String) : Except ConfigError ConsoleFormat :=
  if s = "json" then .ok json else if s = "text" then .ok text else .error (.unknownFormat s)

end ConsoleFormat

/-- The logger of the view and everything below it. -/
def engineLogger : String := "sysview.view"

/-- Level names are in upper case. -/
structure Config where
  level : String
  file : String
  console : ConsoleFormat
  engineLevel : Option String

namespace Config

/-- The configuration for the given settings; an empty level of the view's logger is none. -/
def of (level file console : String) (engineLevel : Option String) : Except ConfigError Config := do
  let console ← ConsoleFormat.ofName console
  return {
    level := Text.upper level
    file
    console
    engineLevel := (engineLevel.filter (· ≠ "")).map Text.upper }

/-- The configuration as a dictionary of formatters, handlers and loggers. -/
def toJson (c : Config) : Json := .object [
  ("version", .int 1),
  ("disable_existing_loggers", .bool false),
  ("formatters", .object [
    ("json", .object [("()", .text "sysview.logging_config.JSONFormatter")]),
    ("text", .object [("format", .text "%(asctime)s %(levelname)-7s %(name)s: %(message)s")])]),
  ("handlers", .object [
    ("file", .object [
      ("class", .text "logging.handlers.RotatingFileHandler"),
      ("filename", .text c.file),
      ("maxBytes", .int (10 * 1024 * 1024)),
      ("backupCount", .int 5),
      ("formatter", .text "json"),
      ("encoding", .text "utf-8")]),
    ("console", .object [
      ("class", .text "logging.StreamHandler"),
      ("formatter", .text c.console.name),
      ("stream", .text "ext://sys.stdout")])]),
  ("root", .object [("level", .text c.level),
    ("handlers", .list [.text "file", .text "console"])]),
  ("loggers", .object (c.engineLevel.map fun level =>
    (engineLogger, .object [("level", .text level)])).toList)]

end Config

/-- The log in use: where it goes and which records it takes. -/
structure Setup where
  console : ConsoleFormat
  rootLevel : Level
  /-- 0 if the view's logger has no level of its own. -/
  engineLevel : Level

namespace Setup

/-- Put a configuration to use; a level must be known by name. -/
def ofConfig (c : Config) : Except ConfigError Setup := do
  let engineLevel ← match c.engineLevel with
    | none => pure 0
    | some s => match Level.ofName? s with
      | some level => pure level
      | none => throw (.logger engineLogger)
  let rootLevel ← match Level.ofName? c.level with
    | some level => pure level
    | none => throw .root
  return ⟨c.console, rootLevel, engineLevel⟩

/-- Whether a logger is the view's or below it. -/
def isEngine (logger : String) : Bool :=
  logger = engineLogger || (engineLogger ++ ".").isPrefixOf logger

/-- The level from which on a logger's records are taken. -/
def effectiveLevel (s : Setup) (logger : String) : Level :=
  if isEngine logger && s.engineLevel ≠ 0 then s.engineLevel else s.rootLevel

/-- Records of no positive level are never taken. -/
def takes (s : Setup) (logger : String) (level : Level) : Bool :=
  0 < level && s.effectiveLevel logger ≤ level

/-- The logger without a name is the root. -/
def loggerName (s : String) : String := if s = "" then "root" else s

/-- The record of a message with arguments, if the log takes it. A message whose arguments do not fit is
lost. -/
def record? (s : Setup) (logger : String) (level : Level) (message : String) (args : List Json)
    (context : Option Json) : Option Record :=
  if s.takes logger level then
    (Message.format message args).toOption.map fun message =>
      ⟨level, loggerName logger, Text.CodePoint.text message, context⟩
  else none

/-- The console's text line for a record, after its time. -/
def textLine (r : Record) : String :=
  let level := Level.name r.level
  level ++ String.ofList (List.replicate (7 - level.length) ' ') ++ " " ++ r.logger ++ ": " ++ r.message

/-- What the console shows of records in text form, the times left out. -/
def consoleText (rs : List Record) : String := String.join (rs.map fun r => textLine r ++ "\n")

end Setup

end TraceGraph.Log
