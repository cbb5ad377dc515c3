/-
  Value/Literal.lean --- the text of a value.

  A value has a literal, in which texts are quoted, and a plain text, in which a
  text stands for itself.  The two differ on texts only: inside a list or a map
  texts are quoted in both.
-/
import QueryStream.Value.Basic
import QueryStream.Text.Quoted
import QueryStream.Decimal.Notation

set_option autoImplicit false

namespace QueryStream.Value

/-- The literal of a truth value. -/
def boolLiteral (b : Bool) : String := if b then "True" else "False"

/-- Texts joined by commas between an opening and a closing bracket. -/
def bracketed (opening closing : String) (parts : List String) : String :=
  opening ++ ", ".intercalate parts ++ closing

mutual

/-- The literal of a value. -/
def literal : Value → String
  | .null => "None"
  | .bool b => boolLiteral b
  | .int n => toString n
  | .real x => Notation.plain.render x
  | .text s => Text.quoted s
  | .bytes bs => Text.quotedBytes bs
  | .list items => bracketed "[" "]" (itemLiterals items)
  | .map entries => bracketed "\x7b" "\x7d" (entryLiterals entries)

/-- The literals of items. -/
def itemLiterals : List Value → List String
  | [] => []
  | item :: rest => literal item :: itemLiterals rest

/-- The literals of entries, key before value. -/
def entryLiterals : List (Value × Value) → List String
  | [] => []
  | (key, value) :: rest => (literal key ++ ": " ++ literal value) :: entryLiterals rest

end

/-- The plain text of a value: a text stands for itself. -/
def plain : Value → String
  | .text s => s
  | v => literal v

/-- The literal of a value that may be missing. -/
def optionLiteral {α : Type} (render : α → String) : Option α → String
  | some a => render a
  | none => "None"

end QueryStream.Value
