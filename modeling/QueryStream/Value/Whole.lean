/-
  Value/Whole.lean --- reading a value as a whole number.

  Numbers lose their fractional part, towards zero.  A text or a byte string may
  spell a whole number: blanks around it, one sign, then digits with single
  underscores between them.  Everything else is refused, each refusal with its
  cause.
-/
import QueryStream.Value.Literal
import QueryStream.Text.Numeral

set_option autoImplicit false

namespace QueryStream

/-- Why a value is not a whole number. -/
inductive WholeFault where
  /-- the value is neither a number nor a text nor a byte string -/
  | kind
  /-- the text, shown as a literal, does not spell a whole number -/
  | spelling (shown : String)
  /-- the text has more digits than are read -/
  | tooLong (digits : Nat)
  /-- the number is no number -/
  | nan
  /-- the number is infinite -/
  | infinite
  deriving DecidableEq, Repr

namespace WholeFault

/-- The wording of a refusal, where it has one. -/
def message : WholeFault → Option String
  | .kind => none
  | .spelling shown =>
      some ("invalid literal for int() with base 10: " ++ String.ofList (shown.toList.take 200))
  | .tooLong digits =>
      some (s!"Exceeds the limit (4300 digits) for integer string conversion: value has {digits} "
        ++ "digits; use sys.set_int_max_str_digits() to increase the limit")
  | .nan => some "cannot convert float NaN to integer"
  | .infinite => some "cannot convert float infinity to integer"

end WholeFault

namespace Value

/-! ## Spelled numbers

The signs of a spelling are classified first, so that texts and byte strings,
which differ in what they take for blanks and digits, share the reading. -/

/-- A sign of a spelled number. -/
inductive Sign where
  | blank
  | digit (n : Nat)
  | underscore
  | plus
  | minus
  | other
  deriving DecidableEq, Repr

namespace Sign

/-- The sign of a text that a character is. -/
def ofChar (c : Char) : Sign :=
  if Text.isBlank c then .blank
  else if c = '_' then .underscore
  else if c = '+' then .plus
  else if c = '-' then .minus
  else match Text.digit? c with
    | some n => .digit n
    | none => .other

/-- The sign of a byte string that a byte is: ASCII only. -/
def ofByte (b : UInt8) : Sign :=
  if b.toNat < 0x7F then ofChar (Char.ofNat b.toNat) else .other

/-- Whether a sign belongs to the run of digits. -/
def inRun : Sign → Bool
  | .digit _ => true
  | .underscore => true
  | _ => false

/-- The value of a digit. -/
def value? : Sign → Option Nat
  | .digit n => some n
  | _ => none

end Sign

/-- Whether the underscores of a run are single and between digits. -/
def underscoresSeparate : List Sign → Bool
  | [] => false
  | [.digit _] => true
  | .digit _ :: .underscore :: rest => underscoresSeparate rest
  | .digit _ :: rest => underscoresSeparate rest
  | _ => false

/-- The greatest number of digits that is read. -/
def digitLimit : Nat := 4300

/-- Read a spelled number.  `shown` is the spelling's literal, for the refusal. -/
def spelledWhole (shown : String) (signs : List Sign) : Except WholeFault Int :=
  let signs := signs.dropWhile (· == .blank)
  let (negative, signs) :=
    match signs with
    | .minus :: rest => (true, rest)
    | .plus :: rest => (false, rest)
    | rest => (false, rest)
  let run := signs.takeWhile Sign.inRun
  let rest := signs.dropWhile Sign.inRun
  let digits := run.filterMap Sign.value?
  if !underscoresSeparate run then .error (.spelling shown)
  else if digitLimit < digits.length then .error (.tooLong digits.length)
  else if rest.all (· == .blank) then
    let n : Nat := digits.foldl (fun n d => 10 * n + d) 0
    .ok (if negative then -n else n)
  else .error (.spelling shown)

/-- A finite number without its fractional part. -/
def truncated (negative : Bool) (significand : Nat) (exponent : Int) : Int :=
  let (numerator, denominator) := Binary64.fraction significand exponent
  let n : Nat := numerator / denominator
  if negative then -n else n

/-- Read a value as a whole number. -/
def whole (v : Value) : Except WholeFault Int :=
  match v with
  | .bool b => .ok b.toNat
  | .int n => .ok n
  | .real x =>
      match x.shape with
      | .nan => .error .nan
      | .infinite _ => .error .infinite
      | .finite negative significand exponent => .ok (truncated negative significand exponent)
  | .text s => spelledWhole v.literal (s.toList.map Sign.ofChar)
  | .bytes bs => spelledWhole v.literal (bs.map Sign.ofByte)
  | _ => .error .kind

@[simp] theorem whole_int (n : Int) : whole (.int n) = .ok n := rfl

@[simp] theorem whole_bool (b : Bool) : whole (.bool b) = .ok b.toNat := rfl

end Value

end QueryStream
