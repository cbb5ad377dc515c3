/-
  Log.lean --- levels of log lines, and where lines come from.
-/

set_option autoImplicit false

namespace QueryStream.Log

/-- How much a line matters. -/
inductive Level where
  /-- the delivery of single records -/
  | trace
  | debug
  | info
  | warning
  | error
  | critical
  deriving DecidableEq, Repr

namespace Level

/-- All levels, the least important first. -/
def all : List Level := [.trace, .debug, .info, .warning, .error, .critical]

/-- The number of a level. -/
def rank : Level → Nat
  | .trace => 5
  | .debug => 10
  | .info => 20
  | .warning => 30
  | .error => 40
  | .critical => 50

/-- The name of a level. -/
def name : Level → String
  | .trace => "TRACE"
  | .debug => "DEBUG"
  | .info => "INFO"
  | .warning => "WARNING"
  | .error => "ERROR"
  | .critical => "CRITICAL"

/-- Other names of levels. -/
def aliases : List (String × Level) := [("WARN", .warning), ("FATAL", .critical)]

/-- The level of a name. -/
def ofName? (name : String) : Option Level :=
  (all.find? fun l => l.name == name).or (aliases.lookup name)

/-- Whether a line of a level passes a threshold; with no threshold none does. -/
def passes (l : Level) : Option Level → Bool
  | some threshold => threshold.rank ≤ l.rank
  | none => false

end Level

/-- Where a line comes from. -/
inductive Source where
  /-- the release of a connection -/
  | connection
  /-- a cursor -/
  | cursor
  /-- the owner of a stream -/
  | completion
  /-- a stream -/
  | stream
  /-- the outcome of a run request -/
  | run
  /-- an iteration over records -/
  | result
  deriving DecidableEq, Repr

/-- The name under which a source writes. -/
def Source.name : Source → String
  | .connection => "graphbolt.connection"
  | .cursor => "graphbolt.cursors.reactive_cursor"
  | .completion => "graphbolt.handlers.completion"
  | .stream => "graphbolt.handlers.pull_handler"
  | .run => "graphbolt.handlers.run_handler"
  | .result => "graphbolt.reactive.result"

/-- A line of a log. -/
structure Line where
  level : Level
  source : Source
  text : String
  deriving DecidableEq, Repr

/-- The texts that get through as trace lines at a threshold. -/
def traced (threshold : Level) (texts : List String) : List String :=
  if Level.trace.passes (some threshold) then texts else []

end QueryStream.Log
