/-
  Scenario/Event.lean --- what can be seen from outside while a stream runs.
-/
import QueryStream.Cursor

set_option autoImplicit false

namespace QueryStream

/-- Something seen from outside. -/
inductive Event where
  | line (l : Log.Line)
  /-- a former name of a parameter was used -/
  | warning (text : String)
  | written (m : Message)
  /-- a record consumer was told of a record -/
  | record (consumer : String) (r : Record)
  /-- a record consumer was told of the end -/
  | ended (consumer : String) (f : Option Failure)
  /-- a summary consumer was told that there is more -/
  | more (consumer : String)
  /-- a summary consumer was told of the summary -/
  | summary (consumer : String) (s : Option Summary) (f : Option Failure)
  /-- the transaction was marked as terminated -/
  | terminated (f : Failure)
  /-- the connection did not begin to be given back -/
  | releaseRefused
  /-- the connection is being given back -/
  | releaseStarted
  /-- the channel outside was asked something -/
  | channel (r : ChannelRequest)
  /-- a failure left a job -/
  | jobFailed (f : Failure)

end QueryStream
