/-
  Command.lean --- what a caller does, step by step.

  Commands drive a stream, a cursor or a result.  A caller's own consumer may
  have commands of its own to carry out when it is told of something.
-/
import QueryStream.Iteration
import QueryStream.Stream

set_option autoImplicit false

namespace QueryStream

/-- The failure to start that a new cursor is given. -/
inductive RunErrorChoice where
  | nothing
  /-- what the outcome of the run request holds -/
  | ofRun
  | given (f : Failure)

/-- The release that a new cursor is given. -/
inductive ReleaseChoice where
  /-- none, so that the channel's holds -/
  | standard
  /-- the channel's -/
  | shared
  /-- another one, of nothing -/
  | ofNothing
  /-- another one, of the connection -/
  | ofConnection
  /-- something that is no release, shown -/
  | bogus (shown : String)

/-- What a new cursor is given. -/
structure CursorPlan where
  runError : RunErrorChoice
  release : ReleaseChoice
  hasRun : Bool
  hasChannel : Bool

/-- Where a consumer is installed. -/
inductive Place where
  | stream
  | cursor
  deriving DecidableEq, Repr

/-- What a command may find missing. -/
inductive Absence where
  /-- no cursor was made -/
  | cursor
  /-- no result was made -/
  | result
  /-- no consumer is installed on the channel outside -/
  | consumer
  /-- the channel has no release -/
  | release
  /-- no iteration has the name -/
  | iteration
  /-- the iteration is still busy with what it was asked before -/
  | idleIteration
  /-- no promise has the name -/
  | promise
  deriving DecidableEq, Repr

/-- The words for what is missing. -/
def Absence.text : Absence → String
  | .cursor => "no cursor"
  | .result => "no result"
  | .consumer => "no consumer"
  | .release => "no release"
  | .iteration => "no iterator"
  | .idleIteration => "busy"
  | .promise => "no future"

/-- What a caller does. -/
inductive Command where
  /-- report the success of the run request -/
  | runSucceed (metadata : Value)
  /-- report the failure of the run request -/
  | runFail (f : Failure)
  /-- report a record of the run request -/
  | runRecord
  /-- carry out an action on the stream -/
  | stream (a : Stream.Action)
  /-- install a record consumer of one's own, with what it does when called -/
  | installRecord (place : Place) (name : String) (reactions : List (String × List Command))
  /-- install the record consumer that drops records -/
  | installDiscard (place : Place)
  /-- install a summary consumer of one's own on the stream -/
  | installSummary (name : String) (reactions : List (String × List Command))
  /-- from outside: tell the record consumer of a record -/
  | tellRecord (fields : Value)
  /-- from outside: tell the summary consumer that there is more -/
  | tellMore
  /-- from outside: tell both consumers of the end -/
  | tellEnd (metadata : Option Value) (f : Option Failure)
  | newCursor (plan : CursorPlan)
  | cursorKeys
  | cursorError
  | cursorStatus
  | cursorRequest (n : Int)
  | cursorCancel
  | cursorSummary (name : String)
  | cursorDiscardAll (name : String)
  | cursorPullAll (name : String)
  | cursorRollback (name : String)
  /-- invoke the release of the channel -/
  | release (name : String)
  | newResult (options : Option OptionsPlan)
  | resultKeys
  | resultLiteral
  | resultIsOpen
  | resultRecords (name : String) (fetchSize former : Value)
  | resultCollect (name : String)
  | resultConsume (name : String)
  | iterationNext (iteration name : String)
  | iterationClose (iteration name : String)
  /-- cancel a promise -/
  | cancelPromise (name : String)
  /-- fail -/
  | fail (f : Failure)
  /-- do nothing -/
  | nothing
  deriving Inhabited

/-! ## The weight of commands -/

mutual

/-- How many commands a command is made of, with those of its consumer. -/
def Command.weight : Command → Nat
  | .installRecord _ _ reactions => 1 + Command.reactionsWeight reactions
  | .installSummary _ reactions => 1 + Command.reactionsWeight reactions
  | _ => 1

/-- How many commands there are in reactions. -/
def Command.reactionsWeight : List (String × List Command) → Nat
  | [] => 0
  | reaction :: rest => Command.reactionWeight reaction + Command.reactionsWeight rest

/-- How many commands there are in one reaction. -/
def Command.reactionWeight : String × List Command → Nat
  | (_, commands) => Command.listWeight commands

/-- How many commands there are in a list. -/
def Command.listWeight : List Command → Nat
  | [] => 0
  | command :: rest => Command.weight command + Command.listWeight rest

end

/-- What a command answers. -/
inductive Answer where
  | nothing
  /-- what the command needs is missing -/
  | missing (what : Absence)
  | values (vs : List Value)
  | failure (f : Option Failure)
  | status (s : ConsumerStatus) (isDone isConsumed : Bool)
  /-- a promise, with the name under which it was already known -/
  | promise (earlier : Option String)
  | options (o : FullOptions)
  | text (s : String)
  | flag (b : Bool)

end QueryStream
