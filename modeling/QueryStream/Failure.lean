/-
  Failure.lean --- what can go wrong, and how it is told.

  A cause says what happened; its kind, its wording and its literal are computed
  from it.  A failure is an occurrence of a cause.  An occurrence handed in from
  outside carries the label by which its giver knows it, and differs from every
  other one, however alike their causes.  An occurrence that arises here carries
  none and is known by its cause.  So every occurrence is the same as itself, and
  what is handed in is never the same as what arises here.
-/
import QueryStream.Demand
import QueryStream.Value.Whole

set_option autoImplicit false

namespace QueryStream

/-! ## Kinds -/

/-- The kinds of causes.  The first six are this library's own. -/
inductive Kind where
  /-- any failure of running a query -/
  | general
  /-- misuse by the caller -/
  | client
  /-- records asked of a consumed result -/
  | consumed
  /-- a query started while another streams -/
  | nesting
  /-- a stream driven against its protocol -/
  | protocol
  /-- a failure reported by the server -/
  | database
  /-- an unacceptable value -/
  | value
  /-- a failure at run time -/
  | runtime
  /-- a failure of a connection -/
  | connection
  /-- a missing key -/
  | key
  /-- a position out of range -/
  | index
  /-- a value of the wrong sort -/
  | sort
  /-- an operation that a value does not have -/
  | operation
  /-- a number out of range -/
  | overflow
  /-- anything else -/
  | other
  deriving DecidableEq, Repr

namespace Kind

/-- The name under which a kind is reported. -/
def name : Kind → String
  | .general => "GraphBoltException"
  | .client => "ClientException"
  | .consumed => "ResultConsumedException"
  | .nesting => "TransactionNestingException"
  | .protocol => "ProtocolException"
  | .database => "DatabaseException"
  | .value => "ValueError"
  | .runtime => "RuntimeError"
  | .connection => "ConnectionError"
  | .key => "KeyError"
  | .index => "IndexError"
  | .sort => "TypeError"
  | .operation => "AttributeError"
  | .overflow => "OverflowError"
  | .other => "Exception"

/-- The kind directly above a kind of this library. -/
def parent? : Kind → Option Kind
  | .client => some .general
  | .consumed => some .client
  | .nesting => some .client
  | .protocol => some .general
  | .database => some .general
  | _ => none

/-- Whether a kind is, or falls under, another. -/
def isA (k above : Kind) : Bool :=
  k == above || k.parent? == some above || (k.parent?.bind parent?) == some above

/-- This library's kinds, by name. -/
def own : List Kind := [.client, .database, .general, .protocol, .consumed, .nesting]

/-- The kinds that show their text under its name. -/
def namesText : Kind → Bool
  | .client => true
  | .consumed => true
  | .nesting => true
  | .protocol => true
  | .database => true
  | _ => false

end Kind

/-! ## Causes -/

/-- What went wrong. -/
inductive Cause where
  /-- a cause made outside, with its text if it was given one -/
  | reported (kind : Kind) (text : Option String)
  /-- a failure of the server, with its status code -/
  | database (code text : String)
  /-- a result accessed after it was consumed -/
  | resultConsumed
  /-- the records of a result asked for a second time -/
  | alreadyIterated
  /-- a query started while the records of another are read -/
  | nested
  /-- a record consumer installed over another -/
  | recordConsumerInstalled
  /-- a summary consumer installed over another -/
  | summaryConsumerInstalled
  /-- a stream driven before both consumers, shown here, are installed -/
  | consumersMissing (record summary : String)
  /-- a demand that is neither positive nor unlimited -/
  | demandRefused (n : Int)
  /-- a record in the response to a run request -/
  | recordInRunResponse
  /-- metadata naming a query type that there is not -/
  | queryTypeUnknown (shown : String)
  /-- a record of unequally many keys and values -/
  | lengthsDiffer (keys values : Nat)
  /-- a cursor without a run outcome or a channel -/
  | cursorIncomplete
  /-- a release of a cursor that is no release -/
  | releaseRefused (shown : String)
  /-- a release of a cursor that its channel does not share -/
  | releaseNotShared
  /-- a fetch size that is no whole number -/
  | fetchSizeSort (shown : String)
  /-- a fetch size that is neither positive nor unlimited -/
  | fetchSizeLow (n : Int)
  /-- a fetch size beyond the greatest demand -/
  | fetchSizeHigh (n : Int)
  /-- a parameter given under both of its names -/
  | bothNames (name deprecated : String)
  /-- a value that is no word of a vocabulary, whose words are shown -/
  | wordUnknown (shown vocabulary words : String)
  /-- an entry of a vocabulary under a name that is kept for later use -/
  | nameReserved (name : String)
  /-- words of a vocabulary under names that no word can have -/
  | namesRefused (names : List String)
  /-- words of a vocabulary that are to be left out once they are in it -/
  | omittedTooLate (names : List String)
  /-- a place reserved in a vocabulary under a name that is taken -/
  | placeTaken (name : String)
  /-- a vocabulary with a name that holds the null character -/
  | vocabularyNameBroken
  /-- a name under which nothing is known -/
  | nameUnknown (name : String)
  /-- a value that is no whole number -/
  | notWhole (fault : WholeFault)
  /-- a key that a record does not have -/
  | keyMissing (shown : String)
  /-- a position beyond the ends of a record -/
  | positionOutOfRange
  /-- a position that is no machine word -/
  | positionTooLarge
  /-- a value of a sort that the operation does not take -/
  | wrongSort
  /-- an operation that the value does not have -/
  | noOperation
  deriving DecidableEq, Repr

namespace Cause

/-- The wording for a result that is consumed. -/
def consumedText : String :=
  "Cannot access records on this result any more as the result has already been consumed "
    ++ "or the query runner where the result is created has already been closed."

/-- The wording for a query inside another. -/
def nestedText : String :=
  "You cannot run another query or begin a new transaction in the same session before "
    ++ "you've fully consumed the previous run result."

/-- The kind of a cause. -/
def kind : Cause → Kind
  | .reported kind _ => kind
  | .database _ _ => .database
  | .resultConsumed => .consumed
  | .alreadyIterated => .consumed
  | .nested => .nesting
  | .recordConsumerInstalled => .protocol
  | .summaryConsumerInstalled => .protocol
  | .consumersMissing _ _ => .protocol
  | .demandRefused _ => .protocol
  | .recordInRunResponse => .protocol
  | .queryTypeUnknown _ => .protocol
  | .lengthsDiffer _ _ => .value
  | .cursorIncomplete => .value
  | .releaseRefused _ => .sort
  | .releaseNotShared => .value
  | .fetchSizeSort _ => .value
  | .fetchSizeLow _ => .value
  | .fetchSizeHigh _ => .value
  | .bothNames _ _ => .value
  | .wordUnknown _ _ _ => .value
  | .nameReserved _ => .value
  | .namesRefused _ => .value
  | .omittedTooLate _ => .value
  | .placeTaken _ => .value
  | .vocabularyNameBroken => .value
  | .nameUnknown _ => .key
  | .notWhole .kind => .sort
  | .notWhole .infinite => .overflow
  | .notWhole _ => .value
  | .keyMissing _ => .key
  | .positionOutOfRange => .index
  | .positionTooLarge => .index
  | .wrongSort => .sort
  | .noOperation => .operation

/-- The text of a cause, where it has one. -/
def text? : Cause → Option String
  | .reported _ text => text
  | .database _ text => some text
  | .resultConsumed => some consumedText
  | .alreadyIterated => some "The records of this result are already being iterated over."
  | .nested => some nestedText
  | .recordConsumerInstalled => some "Record consumer already installed."
  | .summaryConsumerInstalled => some "Summary consumer already installed."
  | .consumersMissing record summary =>
      some ("Access record stream without record consumer and/or summary consumer. "
        ++ s!"Record consumer={record}, Summary consumer={summary}")
  | .demandRefused n =>
      some ("Cannot request record amount that is less than or equal to 0. "
        ++ s!"Request amount: {n}")
  | .recordInRunResponse => some "A run response never carries records."
  | .queryTypeUnknown shown => some s!"Unexpected query type '{shown}' in summary."
  | .lengthsDiffer keys values =>
      some (s!"A record needs as many values as keys (got {keys} keys "
        ++ s!"and {values} values).")
  | .cursorIncomplete => some "A cursor requires both a run handler and a pull handler."
  | .releaseRefused shown =>
      some ("The release of a cursor must be a ReleaseOnce shared with its pull "
        ++ s!"handler, not {shown}.")
  | .releaseNotShared =>
      some "The release of a cursor must be the same ReleaseOnce as the one of its pull handler."
  | .fetchSizeSort shown => some s!"Invalid fetch_size: {shown} (an int is required)."
  | .fetchSizeLow n =>
      some s!"Invalid fetch_size: {n}. A positive value, or -1 for unlimited, is required."
  | .fetchSizeHigh n => some s!"Invalid fetch_size: {n}. It cannot exceed {maxDemand}."
  | .bothNames name deprecated =>
      some (s!"Parameters `{name}` and `{deprecated}` "
        ++ "(a deprecated alias for the former) cannot be passed at the same time.")
  | .wordUnknown shown vocabulary words =>
      some s!"Invalid value '{shown}' for {vocabulary}. Allowed values are: {words}"
  | .nameReserved name =>
      some s!"_sunder_ names, such as {Text.quoted name}, are reserved for future Enum use"
  | .namesRefused names =>
      some ("invalid enum member name(s) " ++ ",".intercalate (names.map Text.quoted))
  | .omittedTooLate names =>
      some ("_ignore_ cannot specify already set names: \x7b"
        ++ ", ".intercalate (names.map Text.quoted) ++ "\x7d")
  | .placeTaken name => some s!"{Text.quoted name} in __slots__ conflicts with class variable"
  | .vocabularyNameBroken => some "type name must not contain null characters"
  | .nameUnknown name => some name
  | .notWhole fault => fault.message
  | .keyMissing shown => some s!"Key not found in record: {shown}"
  | .positionOutOfRange => some "tuple index out of range"
  | .positionTooLarge => some "cannot fit 'int' into an index-sized integer"
  | .wrongSort => none
  | .noOperation => none

/-- What is reported of a cause: its text, for a failure of the server after the
code.  Misuse of values alone has nothing to report. -/
def message? : Cause → Option String
  | .database code text => some (if code.isEmpty then text else code ++ ": " ++ text)
  | .reported _ text => some (text.getD "")
  | cause => cause.text?

/-- The literal of a cause. -/
def literal (c : Cause) : String :=
  match c with
  | .database code text =>
      s!"{c.kind.name}(code={Text.quoted code}, text={Text.quoted text})"
  | _ =>
      match c.text? with
      | none => s!"{c.kind.name}()"
      | some text =>
          if c.kind.namesText then s!"{c.kind.name}(text={Text.quoted text})"
          else s!"{c.kind.name}({Text.quoted text})"

/-- The status code, of a failure of the server. -/
def code? : Cause → Option String
  | .database code _ => some code
  | _ => none

/-- The second of the dotted parts of a status code. -/
def classification? (c : Cause) : Option String :=
  c.code?.bind fun code => (code.splitOn ".")[1]?

/-- Whether repeating the operation may succeed: only what the server classifies
as transient. -/
def isRetryable (c : Cause) : Bool := c.classification? == some "TransientError"

/-- This library's kinds that a cause falls under. -/
def kinds (c : Cause) : List Kind := Kind.own.filter c.kind.isA

/-- A cause of a given kind with an optional text.  Two kinds need a text, and
two have one of their own. -/
def report (kind : Kind) (text : Option String) : Except Cause Cause :=
  match kind, text with
  | .client, none => .error .wrongSort
  | .protocol, none => .error .wrongSort
  | .consumed, none => .ok .resultConsumed
  | .nesting, none => .ok .nested
  | _, _ => .ok (.reported kind text)

/-- A text out of the metadata of a failure: empty if it is missing or counts as
false. -/
def readText (metadata : Value) (name : String) : Except Cause String :=
  match metadata with
  | .map entries =>
      match Value.find? entries (.text name) with
      | some v => .ok (if v.isTrue then v.plain else "")
      | none => .ok ""
  | _ => .error .noOperation

/-- The failure that the server reports in metadata. -/
def ofMetadata (metadata : Value) : Except Cause Cause := do
  let text ← readText metadata "message"
  let code ← readText metadata "code"
  return .database code text

/-- Equality of causes as values: the kinds that name their text compare by kind,
code and text, all others are unequal. -/
def same (a b : Cause) : Bool :=
  a.kind.namesText && a.kind == b.kind && a.code? == b.code? && a.text? == b.text?

end Cause

/-! ## Failures -/

/-- An occurrence of a cause, with the label of its giver. -/
structure Failure where
  label : Option String
  cause : Cause
  deriving DecidableEq, Repr

namespace Failure

/-- A failure that arises here. -/
def arising (cause : Cause) : Failure := ⟨none, cause⟩

/-- Whether two failures are the same occurrence. -/
def isSame (a b : Failure) : Bool := decide (a = b)

@[simp] theorem isSame_iff (a b : Failure) : a.isSame b = true ↔ a = b := decide_eq_true_iff

/-- The literal of a failure is that of its cause. -/
def literal (f : Failure) : String := f.cause.literal

end Failure

end QueryStream
