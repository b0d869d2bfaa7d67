import Showcase.Declaration
import Showcase.FileInfo
import Showcase.Json.Shape

namespace Showcase

inductive SinkError
  | unavailable
  | failed (reason : String)
deriving DecidableEq, Repr

def SinkError.message : SinkError → String
  | unavailable => "Acknowledgment sink is unavailable"
  | failed reason => s!"Acknowledgment failed: {reason}"

/-- Why a text was not read, and the words in which its reader says so. -/
structure ReadFailure where
  cause : ReadError
  words : String
deriving Repr

/-- The file gives no text, or a text that gives no configuration. The source says why. -/
inductive ConfigError
  | unreadable (path source : String)
  | malformed (path : String) (source : ReadFailure)
deriving Repr

def ConfigError.message : ConfigError → String
  | unreadable path source => s!"Failed to read {path}: {source}"
  | malformed path source => s!"Failed to parse {path}: {source.words}"

inductive LogLevel
  | trace
  | debug
  | info
  | warn
  | error
deriving DecidableEq, Repr

def LogLevel.name : LogLevel → String
  | trace => "trace"
  | debug => "debug"
  | info => "info"
  | warn => "warn"
  | error => "error"

inductive LogEvent
  | noStory (e : FileError)
  | registered (id : StoryId)
  | emptyExport (file : String)
  | notComponent (file : String) (value : Json)
  | probeFailed (e : CallError)
  | acknowledgeFailed (prop : String) (e : SinkError)
  | acknowledged (prop : String)
  | configFailed (e : ConfigError)
deriving Repr

namespace LogEvent

def level : LogEvent → LogLevel
  | noStory _ => .error
  | registered _ | emptyExport _ | notComponent _ _ | acknowledgeFailed _ _ => .debug
  | probeFailed _ => .trace
  | acknowledged _ => .info
  | configFailed _ => .warn

def message : LogEvent → String
  | noStory e => e.message
  | registered id => s!"registered story {id.group}/{id.name}"
  | emptyExport file => s!"skipping empty export in {file}"
  | notComponent file value => s!"selected export in {file} is not a component: {value.text}"
  | probeFailed e => s!"type probe failed: {e.message}"
  | acknowledgeFailed prop e => s!"ignored acknowledgment failure for {prop}: {e.message}"
  | acknowledged prop => prop
  | configFailed e => e.message

end LogEvent

/-- The state of the host's collaborators and the log so far, oldest event first. -/
structure Session (σ : Type) where
  state : σ
  log : List LogEvent := []

/-- What may call on the host's collaborators and write to the log. -/
abbrev Action (σ α : Type) := StateM (Session σ) α

def logEvent {σ : Type} (e : LogEvent) : Action σ Unit :=
  modify fun s ↦ { s with log := s.log ++ [e] }

end Showcase
