import TraceGraph.Json.Writer
import TraceGraph.Log.Message
import TraceGraph.Log.Record
import TraceGraph.Log.Timestamp
import TraceGraph.Numeral.Integer
import TraceGraph.Path

/-! Log lines: a record with the place and time of its origin as one line of JSON. -/

namespace TraceGraph.Log

/-- An exception that a record tells of, without the calls that led to it. -/
structure ExceptionInfo where
  type : String
  message : String

/-- What the exception says of itself; one about a missing key says the key in quotes. -/
def ExceptionInfo.saying (e : ExceptionInfo) : String :=
  if e.type = "KeyError" then Text.quoted e.message else e.message

/-- The type, and what the exception says if that is anything. -/
def ExceptionInfo.text (e : ExceptionInfo) : String :=
  if e.saying = "" then e.type else e.type ++ ": " ++ e.saying

/-- A call to the log: a message with arguments, and where and when it was made. The name of its level is
the usual one unless another is given. -/
structure Call where
  logger : String
  level : Level
  levelName : String := Level.name level
  message : String
  args : List Json
  file : String
  line : Int
  function : Option String
  created : Number
  exception : Option ExceptionInfo
  context : Option Json
  /-- How deep the line may be nested: what the stack of the caller leaves of the usual thousand levels. -/
  levels : Nat := 980

/-- What keeps a call from being told. -/
inductive LineError
  | timestamp (e : TimestampError)
  | message (e : Message.Error)

def LineError.text : LineError → String
  | timestamp e => e.message
  | message e => e.message

/-- What keeps a call from having a line: it cannot be told, or what is to be told cannot be written. -/
inductive FormatError
  | untold (e : LineError)
  | lineNumber (e : Numeral.Oversize)
  | unwritten (e : Json.WriteError)

def FormatError.text : FormatError → String
  | untold e => e.text
  | lineNumber e => e.message
  | unwritten e => e.message

namespace Call

/-- The name of the file without directories and extension. -/
def moduleName (c : Call) : String := Path.stem (Path.baseName c.file)

def location (c : Call) : String :=
  let function := c.function.getD "None"
  s!"{c.moduleName}.{function}:{c.line}"

/-- The context that a line shows; null counts as none. -/
def context? (c : Call) : Option Json :=
  match c.context with
  | some .null => none
  | v => v

/-- The fields of the line for a call whose time and message are known. -/
def fields (c : Call) (timestamp : String) (message : Json) : List (String × Json) :=
  [("timestamp", .text timestamp), ("level", .text c.levelName), ("logger", .text c.logger),
    ("message", message), ("location", .text c.location)] ++
  (c.exception.map fun e => ("exception", .text e.text)).toList ++
  (c.context?.map fun v => ("context", v)).toList

/-- What is told of a call, as one object. The halves of a pair are written as its character is, so they are put
together. -/
def entry (c : Call) : Except LineError Json := do
  let timestamp ← ((Instant.ofNumber c.created).bind Instant.text).mapError .timestamp
  let message ← (Message.format c.message c.args).mapError .message
  return .object (c.fields timestamp (.ofCodePoints (Text.CodePoint.join message)))

/-- The text of what is told of a call, where neither nesting nor digits are bounded. -/
def jsonLine (c : Call) : Except LineError String := c.entry.map Json.write

/-- The bounds of the line. -/
def limits (c : Call) : Json.Limits := ⟨some c.levels, some Numeral.digitLimit⟩

/-- The line of a call. -/
def format (c : Call) : Except FormatError String := do
  let entry ← c.entry.mapError .untold
  let _ ← (Numeral.decimal c.limits.digits c.line).mapError .lineNumber
  (entry.writeWithin c.limits).mapError .unwritten

end Call

/-- What the log file holds after calls: the lines, each with a line feed after it. A call without a line
leaves nothing. -/
def fileText (cs : List Call) : String :=
  String.join (cs.filterMap fun c => c.format.toOption.map (· ++ "\n"))

end TraceGraph.Log
