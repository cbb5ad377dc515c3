/-
  Described.lean --- things that are compared, hashed and shown alike.

  Summaries and their parts, queries, requests, causes and options are all
  compared by their contents, and only with their own sort.  Their hashes leave
  out what is not hashed; causes that name their text, and options, have none.
-/
import QueryStream.Options
import QueryStream.Summary.Basic

set_option autoImplicit false

namespace QueryStream

/-- A request by the values it is made of. -/
structure RequestForm where
  /-- whether records are dropped rather than pulled -/
  drops : Bool
  amount : Value
  query : Value

namespace RequestForm

/-- A request out of an amount and a query, which may be left out. -/
def make? (drops : Bool) : List Value → Except Cause RequestForm
  | [amount] => .ok ⟨drops, amount, .int lastQuery⟩
  | [amount, query] => .ok ⟨drops, amount, query⟩
  | _ => .error .wrongSort

/-- The name of the message. -/
def name (f : RequestForm) : String := if f.drops then "DISCARD" else "PULL"

/-- Equality of requests. -/
def same (a b : RequestForm) : Bool :=
  a.drops == b.drops && a.amount.same b.amount && a.query.same b.query

/-- The literal of a request. -/
def literal (f : RequestForm) : String :=
  (if f.drops then "DiscardMessage" else "PullMessage")
    ++ Value.bracketed "(" ")" ["n=" ++ f.amount.literal, "query_id=" ++ f.query.literal]

/-- Both values take part in the hash, but not which request it is. -/
def fingerprint? (f : RequestForm) : Option Fingerprint := do
  return .group [← f.amount.fingerprint?, ← f.query.fingerprint?]

end RequestForm

/-- A thing that can be compared with others. -/
inductive Described where
  | summary (s : Summary)
  | counters (c : Counters)
  | notification (n : Notification)
  | query (q : Query)
  | request (f : RequestForm)
  | cause (c : Cause)
  | options (o : AnyOptions)

namespace Described

/-- Equality: by contents, within one sort. -/
def same : Described → Described → Bool
  | .summary a, .summary b => a.same b
  | .counters a, .counters b => a.same b
  | .notification a, .notification b => a.same b
  | .query a, .query b => a.same b
  | .request a, .request b => a.same b
  | .cause a, .cause b => a.same b
  | .options a, .options b => a.same b
  | _, _ => false

/-- The fingerprint of the hash, where there is one. -/
def fingerprint? : Described → Option Fingerprint
  | .summary s => s.fingerprint?
  | .counters c => c.fingerprint?
  | .notification n => n.fingerprint?
  | .query q => q.fingerprint?
  | .request f => f.fingerprint?
  | .cause c => if c.kind.namesText then none else some .unique
  | .options _ => none

/-- Whether the hashes of two things agree, unless one has none. -/
def hashesAgree (a b : Described) : Except Cause Bool :=
  match a.fingerprint?, b.fingerprint? with
  | some x, some y => .ok (x.agrees y)
  | _, _ => .error .wrongSort

/-- The literal of a thing. -/
def literal : Described → String
  | .summary s => s.literal
  | .counters c => c.literal
  | .notification n => n.literal
  | .query q => q.literal
  | .request f => f.literal
  | .cause c => c.literal
  | .options o => o.literal

/-- The name of a request. -/
def requestName? : Described → Option String
  | .request f => some f.name
  | _ => none

end Described

end QueryStream
