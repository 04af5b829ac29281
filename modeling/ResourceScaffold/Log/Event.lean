import ResourceScaffold.Number.Text
import ResourceScaffold.Text.CodePoint

/-!
# Events of a run

What a run reports while it works, with the level, the stage and the message of each report.
-/

namespace ResourceScaffold

/-- A level of reports. -/
inductive LogLevel where
  | debug
  | info
  | warning
  | error
  | critical
  deriving DecidableEq, Repr, Inhabited

/-- The name of a level. -/
def LogLevel.name : LogLevel → String
  | debug => "DEBUG"
  | info => "INFO"
  | warning => "WARNING"
  | error => "ERROR"
  | critical => "CRITICAL"

/-- The weight of a level. -/
def LogLevel.weight : LogLevel → Nat
  | debug => 10
  | info => 20
  | warning => 30
  | error => 40
  | critical => 50

/-- All levels, the lightest first. -/
def LogLevel.all : List LogLevel :=
  [debug, info, warning, error, critical]

/-- Something that happened in a run. -/
inductive Event where
  /-- The classes of the entities are about to be made. -/
  | building (entities : Nat)
  /-- The modules of an entity are about to be made. -/
  | creating (entity : String)
  /-- The classes of an entity are written. -/
  | rendered (entity : String) (modules : Nat)
  /-- All modules are made. -/
  | generated (modules entities : Nat)
  /-- The modules are about to be stored. -/
  | writing (modules : Nat) (directory : String)
  /-- The modules are stored; those that were current already were not touched. -/
  | wrote (written modules : Nat)
  /-- A request was refused. -/
  | rejected (reason : WideText)
  /-- The server begins to answer. -/
  | starting (environment : String)
  /-- The server stops. -/
  | stopping
  deriving DecidableEq, Repr

namespace Event

/-- The level of an event. -/
def level : Event → LogLevel
  | rendered .. | wrote .. => .debug
  | rejected .. => .warning
  | _ => .info

/-- The stage of a run to which an event belongs. -/
def stage? : Event → Option String
  | building .. => some "ENTITY_DTOS"
  | creating .. => some "VALIDATE"
  | rendered .. => some "DTOS"
  | generated .. => some "DONE"
  | writing .. | wrote .. => some "WRITE"
  | rejected .. => some "FAILED"
  | starting .. | stopping => none

/-- The entity an event is about. -/
def entity? : Event → Option String
  | creating entity | rendered entity _ => some entity
  | _ => none

/-- The message of an event. -/
def message : Event → WideText
  | building entities => "Building " ++ intText entities ++ " entity DTOs"
  | creating entity => "Creating " ++ entity ++ "..."
  | rendered _ modules => "Rendered " ++ intText modules ++ " DTO modules"
  | generated modules entities =>
      "Generated " ++ intText modules ++ " modules for " ++ intText entities ++ " entities"
  | writing modules directory => "Writing " ++ intText modules ++ " modules to " ++ directory
  | wrote written modules => "Wrote " ++ intText written ++ " of " ++ intText modules ++ " modules"
  | rejected reason => "Generation rejected: " ++ reason
  | starting environment => "Starting API server (env=" ++ environment ++ ")..."
  | stopping => "Shutting down API server..."

end Event

end ResourceScaffold
