/-
  Text/Quoted.lean --- texts and byte strings between quotes.

  The quote is single unless the text has a single quote and no double one.  The
  quote itself and the backslash are escaped, line feed, carriage return and tab
  have letters, and every other character that is not shown as itself is written
  by its code in two, four or eight hexadecimal digits.
-/
import QueryStream.Text.Printable

set_option autoImplicit false

namespace QueryStream.Text

/-- A numeral of at least `width` hexadecimal digits in lower case. -/
def hexadecimal (width n : Nat) : String :=
  let digits := Nat.toDigits 16 n
  String.ofList (List.replicate (width - digits.length) '0' ++ digits)

/-- The escape of a character by its code. -/
def codeEscape (c : Char) : String :=
  if c.toNat ≤ 0xFF then "\\x" ++ hexadecimal 2 c.toNat
  else if c.toNat ≤ 0xFFFF then "\\u" ++ hexadecimal 4 c.toNat
  else "\\U" ++ hexadecimal 8 c.toNat

/-- A character between quotes of the given sort. -/
def escaped (quote c : Char) : String :=
  if c = quote ∨ c = '\\' then String.ofList ['\\', c]
  else if c = '\n' then "\\n"
  else if c = '\r' then "\\r"
  else if c = '\t' then "\\t"
  else if isPrintable c then String.singleton c
  else codeEscape c

/-- The quote to put around some characters. -/
def quoteFor (cs : List Char) : Char :=
  if cs.contains '\x27' && !cs.contains '\x22' then '\x22' else '\x27'

/-- Characters between quotes. -/
def quotedChars (cs : List Char) : String :=
  let quote := quoteFor cs
  String.singleton quote ++ String.join (cs.map (escaped quote)) ++ String.singleton quote

/-- A text between quotes. -/
def quoted (s : String) : String := quotedChars s.toList

/-- A byte of a byte string: beyond ASCII it is always written by its code. -/
def escapedByte (quote : Char) (b : UInt8) : String :=
  if b.toNat < 0x7F then escaped quote (Char.ofNat b.toNat)
  else "\\x" ++ hexadecimal 2 b.toNat

/-- A byte string between quotes, marked by a letter. -/
def quotedBytes (bs : List UInt8) : String :=
  let quote := quoteFor (bs.map fun b => Char.ofNat b.toNat)
  "b" ++ String.singleton quote ++ String.join (bs.map (escapedByte quote))
    ++ String.singleton quote

end QueryStream.Text
