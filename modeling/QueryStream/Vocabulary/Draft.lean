/-
  Vocabulary/Draft.lean --- vocabularies out of entries.

  Entries are read in turn, so a directive about entries that are to be left out
  holds from its place on, until the next one.  What is no word is kept under its
  name, and so is a word that is left out; what the last directive leaves out is
  dropped again.  What is kept then stands in the place of whatever has its name.
-/
import QueryStream.Vocabulary.Entry

set_option autoImplicit false

namespace QueryStream

/-- What was read of a vocabulary so far. -/
structure Draft where
  vocabulary : Vocabulary
  /-- what is kept under a name, latest first -/
  kept : List (String × Value)
  /-- names of entries to leave out from here on -/
  omitted : List String

namespace Draft

/-- Nothing was read. -/
def ofName (name : String) : Draft := ⟨.empty name, [], []⟩

/-! ## Reading entries -/

/-- Keep a value under a name. -/
def keep (d : Draft) (name : String) (value : Value) : Draft :=
  { d with kept := (name, value) :: d.kept }

/-- Whether something is kept under a name. -/
def keeps (d : Draft) (name : String) : Bool := (d.kept.lookup name).isSome

/-- Read a word.  One that is to be left out is kept. -/
def addWord (d : Draft) (w : Word) : Except Cause Draft :=
  if d.vocabulary.hasName w.name then .error .wrongSort
  else if d.omitted.contains w.name then .ok (d.keep w.name w.value)
  else if d.keeps w.name then .error .wrongSort
  else (d.vocabulary.insert? w).map fun vocabulary => { d with vocabulary }

/-- Leave out the entries of names from here on.  None of them may be a word. -/
def leaveOut (d : Draft) (names : List String) : Except Cause Draft :=
  match names.eraseDups.filter d.vocabulary.hasName with
  | [] => .ok { d with omitted := names }
  | taken => .error (.omittedTooLate taken)

/-- Read an entry. -/
def add (d : Draft) (entry : Word) : Except Cause Draft :=
  match EntryRole.ofName d.vocabulary.name entry.name with
  | .word => d.addWord entry
  | .setting => .ok (d.keep entry.name entry.value)
  | .sequence => .ok (d.keep EntryRole.sequenceName entry.value)
  | .omission =>
      match NameList.ofValue? entry.value with
      | some names => d.leaveOut (NameList.texts names)
      | none => .error .wrongSort
  | .reserved => .error (.nameReserved entry.name)

/-! ## Checks -/

/-- Names that no word can have. -/
def refusedNames : List String := ["mro", ""]

/-- No word may have a name that no word can have. -/
def checkNames (d : Draft) : Except Cause Unit :=
  match refusedNames.filter d.vocabulary.hasName with
  | [] => .ok ()
  | refused => .error (.namesRefused refused)

/-- Whether a place is taken: by a word, by what is kept, or by the vocabulary. -/
def isTaken (d : Draft) (place : String) : Bool :=
  !Place.shared.contains place
    && (d.vocabulary.hasName place || d.keeps place || Place.own.contains place)

/-- The places that are reserved, none of which may be taken. -/
def places (d : Draft) : Except Cause (List String) :=
  match d.kept.lookup "__slots__" with
  | none => .ok []
  | some value =>
      match Place.all? value with
      | none => .error .wrongSort
      | some named =>
          let places := named.map (Place.nameIn d.vocabulary.name)
          match places.find? d.isTaken with
          | some place => .error (.placeTaken place)
          | none => .ok places

/-- The name of a vocabulary holds no null character; it may be qualified, by a
text; and no cell may be given. -/
def checkFrame (d : Draft) : Except Cause Unit := do
  if d.vocabulary.name.contains '\x00' then .error .vocabularyNameBroken
  match d.kept.lookup "__qualname__" with
  | none => pure ()
  | some (.text _) => pure ()
  | some _ => .error .wrongSort
  if d.keeps "__classcell__" then .error .wrongSort

/-- Making a word takes operations that a value cannot carry out, and that a
vacant place does not have. -/
def checkMaking (d : Draft) (places : List String) : Except Cause Unit := do
  if d.vocabulary.entries.isEmpty then return
  if ((d.kept.lookup "__new__").any fun v => !v.isNull)
      || ["__setattr__", "__getattr__", "__getattribute__"].any d.keeps then
    .error .wrongSort
  if ["__setattr__", "__getattribute__"].any places.contains then .error .noOperation
  if d.keeps "__init__" then .error .wrongSort
  if places.contains "__init__" then .error .noOperation

/-- Whether a declared order is that of the words, among which an alias may stand
anywhere.  What does not count as true declares nothing. -/
def isInOrder (d : Draft) (declared : Value) : Bool :=
  let declared := match declared with
    | .text s => .list (NameList.ofText s)
    | declared => declared
  let words := d.vocabulary.words.map Word.name
  !declared.isTrue
    || (NameList.ofValue? declared).any fun names =>
        Value.sameItems (words.map .text) (names.filter fun name => match name with
          | .text s => !d.vocabulary.hasName s || words.contains s
          | _ => true)

/-- The declared order, if there is one, must be that of the words. -/
def checkOrder (d : Draft) (declared : Option Value) : Except Cause Unit :=
  if declared.all d.isInOrder then .ok () else .error .wrongSort

/-! ## The vocabulary -/

/-- Drop what is to be left out. -/
def drop (d : Draft) (names : List String) : Draft :=
  { d with kept := d.kept.filter fun entry => !names.contains entry.1 }

/-- The vocabulary, once every entry was read. -/
def finish (d : Draft) : Except Cause Vocabulary := do
  let d := d.drop d.omitted
  let declared := d.kept.lookup EntryRole.sequenceName
  let d := d.drop [EntryRole.sequenceName]
  d.checkNames
  let places ← d.places
  d.checkFrame
  d.checkMaking places
  d.checkOrder declared
  return { d.vocabulary with
    standIns := d.kept.map (fun entry => (entry.1, .value entry.2))
      ++ places.map fun place => (place, .vacancy) }

end Draft

/-- The vocabulary of a list of entries. -/
def Vocabulary.ofEntries? (name : String) (entries : List Word) : Except Cause Vocabulary := do
  (← entries.foldlM Draft.add (Draft.ofName name)).finish

end QueryStream
