/-
  Vocabulary/Entry.lean --- what the entries of a vocabulary are for.

  Not every entry is a word.  A name between low lines belongs to the list
  itself: between one at each end it is a directive, and a name of that form
  that is none is kept for later use; between two at each end it is a setting,
  and so is a name that is private to the list.
-/
import QueryStream.Text.Identifier
import QueryStream.Text.Numeral
import QueryStream.Vocabulary

set_option autoImplicit false

namespace QueryStream

/-- What an entry of a vocabulary is for. -/
inductive EntryRole where
  /-- it is a word -/
  | word
  /-- it is kept under its name -/
  | setting
  /-- it declares the order of the words -/
  | sequence
  /-- it lists the names of entries to leave out -/
  | omission
  /-- its name is kept for later use -/
  | reserved
  deriving DecidableEq, Repr

namespace EntryRole

/-- Whether a text begins with exactly as many low lines as given and goes on. -/
def opens (n : Nat) (cs : List Char) : Bool :=
  (cs.take n).all (· == '_') && cs[n]?.any (· != '_')

/-- Whether a name stands between exactly as many low lines at each end. -/
def isFramed (n : Nat) (name : String) : Bool :=
  decide (2 * n < name.length) && opens n name.toList && opens n name.toList.reverse

/-- Whether a name ends in two low lines. -/
def endsOpen (name : String) : Bool := "__".toList.isSuffixOf name.toList

/-- Whether a name is private to a vocabulary: it begins with the name of the
vocabulary after one low line and before two, and does not end in two. -/
def isPrivate (vocabulary name : String) : Bool :=
  let start := "_" ++ vocabulary ++ "__"
  decide (start.length < name.length) && start.toList.isPrefixOf name.toList && !endsOpen name

/-- The name under which an order is declared. -/
def sequenceName : String := "_order_"

/-- The name under which entries to leave out are listed. -/
def omissionName : String := "_ignore_"

/-- The directives that say nothing about the words of a list that is given. -/
def directives : List String :=
  ["_generate_next_value_", "_numeric_repr_", "_missing_", "_iter_member_",
    "_iter_member_by_value_", "_iter_member_by_def_"]

/-- What an entry is for, by the name of its vocabulary and its own. -/
def ofName (vocabulary name : String) : EntryRole :=
  if isPrivate vocabulary name then .setting
  else if isFramed 1 name then
    if name = sequenceName then .sequence
    else if name = omissionName then .omission
    else if name ∈ directives then .setting
    else .reserved
  else if isFramed 2 name then
    if name = "_" ++ sequenceName ++ "_" then .sequence else .setting
  else .word

end EntryRole

/-! ## Lists of names -/

namespace NameList

/-- The parts of a text between separators, which may be empty. -/
def parts (separates : Char → Bool) : List Char → List (List Char)
  | [] => [[]]
  | c :: rest =>
      match separates c, parts separates rest with
      | true, found => [] :: found
      | false, part :: found => (c :: part) :: found
      | false, [] => [[c]]

/-- The names that a text lists, between commas or blanks. -/
def ofText (text : String) : List Value :=
  ((parts (fun c => c == ',' || Text.isGap c) text.toList).filter (!·.isEmpty)).map
    fun part => .text (String.ofList part)

/-- The names that a value lists, if it is a text or has parts.  Each must be able
to be a key. -/
def ofValue? (v : Value) : Option (List Value) :=
  let listed := match v with
    | .text s => some (ofText s)
    | v => v.parts?
  listed.filter fun names => names.all Value.isKey

/-- The texts among names. -/
def texts (names : List Value) : List String :=
  names.filterMap fun name => match name with
    | .text s => some s
    | _ => none

end NameList

/-! ## Reserved places -/

namespace Place

/-- The places that every vocabulary has for itself, so that they cannot be
reserved. -/
def own : List String :=
  ["__module__", "_all_bits_", "_boundary_", "_flag_mask_", "_generate_next_value_",
    "_inverted_", "_member_map_", "_member_names_", "_member_type_", "_new_member_",
    "_singles_mask_", "_unhashable_values_", "_use_args_", "_value2member_map_", "_value_repr_"]

/-- The places that may be reserved even if they are taken. -/
def shared : List String := ["__qualname__", "__classcell__"]

/-- The places that every word has already. -/
def inWords : List String := ["__dict__", "__weakref__"]

/-- A place under its name in a vocabulary: a name that begins with two low lines
and does not end in two is private to the vocabulary. -/
def nameIn (vocabulary place : String) : String :=
  let bare := vocabulary.toList.dropWhile (· == '_')
  if "__".toList.isPrefixOf place.toList && !EntryRole.endsOpen place && !bare.isEmpty then
    "_" ++ String.ofList bare ++ place
  else place

/-- The place that a value names, if it is an identifier. -/
def ofValue? : Value → Option String
  | .text s => if Text.isIdentifier s && !inWords.contains s then some s else none
  | _ => none

/-- The places that a value names: one, or each part of the value. -/
def all? : Value → Option (List String)
  | .text s => (ofValue? (.text s)).map fun place => [place]
  | v => v.parts?.bind fun parts => parts.mapM ofValue?

end Place

end QueryStream
