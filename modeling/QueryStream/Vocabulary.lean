/-
  Vocabulary.lean --- closed lists of words as they come over the wire.

  A vocabulary lists words by name, each with the value that stands for it on
  the wire.  A second name for the same value is an alias: the word is the one
  that had the value first.  A text is read leniently: first as a value, then as
  a value in any case, then as a name in any case.

  Values on the wire are texts.  Other values may be listed, but are not read: one
  that has no case stops a text that got so far, and one that cannot be a key
  stops every text.  Something else may also stand where a vocabulary has its
  operations and the properties of its words; then that counts.
-/
import QueryStream.Failure
import QueryStream.Text.Lowercase

set_option autoImplicit false

namespace QueryStream

/-- A word: its name and the value that stands for it. -/
structure Word where
  name : String
  value : Value
  deriving Inhabited

/-- What stands in the place of an operation or of a property. -/
inductive StandIn where
  /-- a value -/
  | value (v : Value)
  /-- nothing, since the place is reserved and was not filled -/
  | vacancy

/-- A named list of words.  Entries with a value that came before are aliases. -/
structure Vocabulary where
  name : String
  entries : List Word
  /-- what stands in the place of an operation or a property, by its name -/
  standIns : List (String × StandIn)
  distinct : (entries.map Word.name).Nodup

namespace Vocabulary

/-- No entries. -/
def empty (name : String) : Vocabulary := ⟨name, [], [], .nil⟩

/-- Whether an entry has a name. -/
def hasName (v : Vocabulary) (name : String) : Bool := v.entries.any fun w => w.name == name

/-- Add an entry at the end, unless its name is taken. -/
def insert? (v : Vocabulary) (w : Word) : Except Cause Vocabulary :=
  if h : w.name ∈ v.entries.map Word.name then .error .wrongSort
  else .ok ⟨v.name, v.entries ++ [w], v.standIns, by
    rw [List.map_append]
    exact List.nodup_append.2 ⟨v.distinct, by simp, fun a ha b hb e => by
      simp only [List.map_cons, List.map_nil, List.mem_singleton] at hb
      exact h (hb ▸ e ▸ ha)⟩⟩

/-! ## Words and aliases -/

/-- The word of an entry: the first entry of its value. -/
def wordOf (v : Vocabulary) (entry : Word) : Word :=
  (v.entries.find? fun w => w.name == entry.name || w.value.same entry.value).getD entry

/-- The names of the entries, each with its word. -/
def names (v : Vocabulary) : List (String × Word) := v.entries.map fun w => (w.name, v.wordOf w)

/-- The word of a name, which may be an alias. -/
def named? (v : Vocabulary) (name : String) : Option Word := v.names.lookup name

/-- The word of a name that there must be. -/
def named (v : Vocabulary) (name : String) : Except Cause Word :=
  match v.named? name with
  | some w => .ok w
  | none => .error (.nameUnknown name)

/-- The words, without aliases. -/
def words (v : Vocabulary) : List Word :=
  (v.names.filter fun entry => entry.1 == entry.2.name).map Prod.snd

/-! ## What stands in place -/

/-- The names under which a vocabulary reads, looks a text up, and shows the name
and the value of a word. -/
def readingName : String := "coerce"

@[inherit_doc readingName] def lookUpName : String := "_member_for"

@[inherit_doc readingName] def nameProperty : String := "name"

@[inherit_doc readingName] def valueProperty : String := "value"

/-- Whether an operation cannot be carried out, since a word or something else
stands in its place. -/
def lacks (v : Vocabulary) (operation : String) : Bool :=
  v.hasName operation || (v.standIns.lookup operation).isSome

/-- A property of a word, unless something stands in its place. -/
def property (v : Vocabulary) (place : String) (own : Value) : Except Cause Value :=
  match v.standIns.lookup place with
  | none => .ok own
  | some (.value other) => .ok other
  | some .vacancy => .error .noOperation

/-- The value that a word shows. -/
def valueOf (v : Vocabulary) (w : Word) : Except Cause Value := v.property valueProperty w.value

/-- A word as it is shown, by name and value. -/
def shown (v : Vocabulary) (w : Word) : Except Cause (Value × Value) := do
  return (← v.property nameProperty (.text w.name), ← v.valueOf w)

/-! ## Reading texts -/

/-- Enter a name into an index of words: a word keeps its place and takes the new
name. -/
def enter (index : List (Word × String)) (entry : String × Word) : List (Word × String) :=
  match index with
  | [] => [(entry.2, entry.1)]
  | first :: rest =>
      if first.1.name == entry.2.name then (first.1, entry.1) :: rest
      else first :: enter rest entry

/-- The words in order, each with the last of its names. -/
def lastNames (v : Vocabulary) : List (Word × String) := v.names.foldl enter []

/-- The values in order, each with the last name given to it, so that they can be
looked up.  A value that stands in for those of all words has the last name of
all. -/
def index (v : Vocabulary) : Except Cause (List (Value × String)) := do
  let entries ← match v.standIns.lookup valueProperty, v.entries.getLast? with
    | some (.value other), some last => pure [(other, last.name)]
    | some .vacancy, some _ => .error .noOperation
    | _, _ => pure (v.lastNames.map fun entry => (entry.1.value, entry.2))
  if entries.all fun entry => entry.1.isKey then return entries else .error .wrongSort

/-- The text of a value in lower case, if it is a text; byte strings have a case
too, other values do not. -/
def folded : Value → Except Cause (Option String)
  | .text s => .ok (some (Text.lowercase s))
  | .bytes _ => .ok none
  | _ => .error .noOperation

/-- The first entry whose value, in lower case, is a given text. -/
def findFolded (lowered : String) : List (Value × String) → Except Cause (Option String)
  | [] => .ok none
  | (value, name) :: rest =>
      match folded value with
      | .error c => .error c
      | .ok found => if found = some lowered then .ok (some name) else findFolded lowered rest

/-- The first name that, in lower case, is a given text. -/
def findName (v : Vocabulary) (lowered : String) : Option String :=
  (v.entries.find? fun w => Text.lowercase w.name == lowered).map Word.name

/-- The name under which a text is read, if it is. -/
def nameOf? (v : Vocabulary) (s : String) : Except Cause (Option String) := do
  let index ← v.index
  match index.find? fun entry => entry.1.sameKey (.text s) with
  | some entry => return some entry.2
  | none =>
      match ← findFolded (Text.lowercase s) index with
      | some name => return some name
      | none => return v.findName (Text.lowercase s)

/-- Look a text up. -/
def lookUp (v : Vocabulary) (s : String) : Except Cause (Option String) :=
  if v.lacks lookUpName then .error .wrongSort else v.nameOf? s

/-! ## Reading candidates -/

/-- What may be read as a word: a word of the vocabulary itself, or any value. -/
inductive Candidate where
  | word (w : Word)
  | value (v : Value)

/-- Whether a candidate is read as a word. -/
def accepts (v : Vocabulary) : Candidate → Except Cause Bool
  | .word _ => .ok true
  | .value (.text s) => (v.lookUp s).map Option.isSome
  | .value _ => .ok false

/-- Refuse a value, naming the values that are accepted. -/
def refuse (v : Vocabulary) (value : Value) : Except Cause Word := do
  let values ← v.words.mapM v.valueOf
  .error (.wordUnknown value.plain v.name (Value.literal (.list values)))

/-- Read a candidate as a word. -/
def coerce (v : Vocabulary) : Candidate → Except Cause Word
  | .word w => .ok w
  | .value (.text s) => do
      match ← v.lookUp s with
      | some name => v.named name
      | none => v.refuse (.text s)
  | .value value => v.refuse value

/-- Read a candidate on behalf of a caller, who asks for the operation by name. -/
def read (v : Vocabulary) (c : Candidate) : Except Cause Word :=
  if v.lacks readingName then .error .wrongSort else v.coerce c

end Vocabulary

/-! ## Query types -/

/-- The kinds of queries. -/
inductive QueryType where
  /-- only reads data -/
  | readOnly
  /-- reads and writes data -/
  | readWrite
  /-- only writes data -/
  | writeOnly
  /-- changes the schema -/
  | schemaWrite
  deriving DecidableEq, Repr

namespace QueryType

/-- All query types. -/
def all : List QueryType := [.readOnly, .readWrite, .writeOnly, .schemaWrite]

/-- The word of a query type. -/
def word : QueryType → Word
  | .readOnly => ⟨"READ_ONLY", .text "r"⟩
  | .readWrite => ⟨"READ_WRITE", .text "rw"⟩
  | .writeOnly => ⟨"WRITE_ONLY", .text "w"⟩
  | .schemaWrite => ⟨"SCHEMA_WRITE", .text "s"⟩

/-- The words of query types. -/
def vocabulary : Vocabulary := ⟨"QueryType", all.map word, [], by decide⟩

/-- The query type of a word. -/
def ofWord? (w : Word) : Option QueryType := all.find? fun t => t.word.name == w.name

/-- The literal of a query type. -/
def literal (t : QueryType) : String :=
  "<QueryType." ++ t.word.name ++ ": " ++ t.word.value.literal ++ ">"

end QueryType

end QueryStream
