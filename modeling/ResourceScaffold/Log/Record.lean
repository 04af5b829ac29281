import ResourceScaffold.Log.Event
import ResourceScaffold.Text.Case
import ResourceScaffold.Value.Literal

/-!
# Log lines

A log line names the time, the level, the logger, the entity and the stage, and then the message. Lines below the
threshold are dropped.
-/

namespace ResourceScaffold

/-- The least level that is written; none writes every level. -/
abbrev Threshold := Option LogLevel

/-- The names of thresholds other than the names of the levels themselves. -/
def Threshold.aliases : List (String × Threshold) :=
  [("WARN", some .warning), ("FATAL", some .critical), ("NOTSET", none)]

/-- The threshold with a name, in any case; an unknown name gives the level of information. -/
def Threshold.ofName (s : String) : Threshold :=
  let name := Text.upper s
  ((LogLevel.all.map fun level => (level.name, some level)) ++ aliases).lookup name |>.getD (some .info)

/-- The name of a threshold. -/
def Threshold.name (t : Threshold) : String :=
  match t with
  | some level => level.name
  | none => "NOTSET"

/-- Whether lines of a level are written. -/
def Threshold.allows (t : Threshold) (level : LogLevel) : Bool :=
  match t with
  | some least => decide (least.weight ≤ level.weight)
  | none => true

/-- A line of a log before it is written. -/
structure LogRecord where
  logger : String
  level : LogLevel
  /-- The entity, if the line is about one. -/
  entity : Option String
  /-- The stage of the run, if the line belongs to one. -/
  stage : Option String
  message : WideText
  deriving DecidableEq, Repr

/-- The line of an event, from a logger. -/
def Event.record (e : Event) (logger : String) : LogRecord :=
  { logger, level := e.level, entity := e.entity?, stage := e.stage?, message := e.message }

/-- The names of attributes that every record has of its own. -/
def ownAttributes : List String :=
  ["name", "msg", "args", "levelname", "levelno", "pathname", "filename", "module", "exc_info", "exc_text", "stack_info",
   "lineno", "funcName", "created", "msecs", "relativeCreated", "thread", "threadName", "processName", "process",
   "message", "asctime"]

/-- A record to which attributes are given, unless one of them is among its own. -/
def LogRecord.withAttributes? (logger : String) (level : LogLevel) (message : String) (given : Entries) :
    Option LogRecord :=
  if ownAttributes.any fun name => (given.get? name).isSome then none
  else some {
    logger
    level
    entity := (given.get? "entity").map Value.display
    stage := (given.get? "stage").map Value.display
    message }

/-- The text of a line; a missing entity or stage is written as a hyphen. -/
def LogRecord.text (r : LogRecord) (time : String) : WideText :=
  time ++ " " ++ r.level.name ++ " " ++ r.logger ++ " [entity=" ++ r.entity.getD "-" ++ " stage=" ++
    r.stage.getD "-" ++ "] - " ++ r.message

/-- The records that a threshold lets through. -/
def Threshold.filter (t : Threshold) (records : List LogRecord) : List LogRecord :=
  records.filter fun r => t.allows r.level

/-- The logger of the generator. -/
def generatorLogger : String := "app.generators.resource_gen.generator"

/-- The logger of the storing of modules. -/
def writerLogger : String := "app.generators.resource_gen.writer"

/-- The logger of the requests for generation. -/
def requestLogger : String := "app.api.routes_resources"

/-- The logger of the server. -/
def serverLogger : String := "app.main"

end ResourceScaffold
