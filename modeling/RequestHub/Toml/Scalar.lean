import RequestHub.Decimal.Power
import RequestHub.Decimal.Reading
import RequestHub.Toml.Scan
import RequestHub.Toml.Value

/-!
# TOML numbers and moments

An integer is written in decimal digits with an optional sign, or in digits of another radix behind its
name; single underscores may stand between digits.  A number with a fraction or an exponent is a
floating-point number, and must not be too great for one.  A moment is a date, a time, or a date with
a time and perhaps an offset.
-/

namespace RequestHub.Toml.Scalar

open Scan

/-! ## Numbers -/

/-- Digits behind one another or behind single underscores. -/
def moreDigits (isDigit : Char → Bool) : List Char → Option (List Char × List Char)
  | '_' :: digit :: rest =>
      if isDigit digit then
        (moreDigits isDigit rest).map fun (digits, rest) => (digit :: digits, rest)
      else none
  | char :: rest =>
      if isDigit char then
        (moreDigits isDigit rest).map fun (digits, rest) => (char :: digits, rest)
      else if char = '_' then none
      else some ([], char :: rest)
  | [] => some ([], [])

/-- One or more digits, with single underscores between them. -/
def digits (isDigit : Char → Bool) : Scan (List Char) := fun chars =>
  if chars.head?.any isDigit then moreDigits isDigit chars else none

/-- The digits of a whole number: a lone zero, or digits that do not start with one. -/
def wholeDigits : Scan (List Char) := do
  if (← peek?) = some '0' then do
    take '0'
    return ['0']
  else digits Char.isDigit

/-- An integer, if it fits into 64 bits. -/
def integer (value : Int) : Scan Value :=
  if -(twoTo 63) ≤ value && value < twoTo 63 then return .integer value else failure

/-- An integer in the digits of a radix. -/
def inRadix (radix : Nat) : Scan Value := do
  let found ← digits fun char => (Decimal.digitValue? radix char).isSome
  match Decimal.natural? radix found with
  | some value => integer value
  | none => failure

/-- The exponent of a number, if there is one. -/
def exponent? : Scan (Option Int) := do
  if ← takes ['e', 'E'] then do
    let negative ← takes ['-']
    if !negative then
      let _ ← takes ['+']
    match Decimal.natural? 10 (← digits Char.isDigit) with
    | some value => return some (if negative then -(value : Int) else value)
    | none => failure
  else return none

/-- The number with some digits in front of its point; only an integer has nothing more. -/
def decimal (negative : Bool) (whole : List Char) : Scan Value := do
  let part ← if ← takes ['.'] then some <$> digits Char.isDigit else pure none
  let power? ← exponent?
  match Decimal.natural? 10 (whole ++ part.getD []) with
  | none => failure
  | some value =>
      if part.isNone && power?.isNone then
        integer (if negative then -(value : Int) else value)
      else
        let number := Real64.ofScaled negative value (power?.getD 0 - (part.getD []).length)
        if number = Real64.infinity false then failure else return .real number

/-- Passes over a given word. -/
def word : List Char → Scan Unit
  | [] => return ()
  | char :: chars => do
      take char
      word chars

/-- A number behind its sign. -/
def unsigned (negative signed : Bool) : Scan Value := do
  match ← peek? with
  | some 'i' => do
      word "inf".toList
      return .real (Real64.infinity negative)
  | some 'n' => do
      word "nan".toList
      return .real (Real64.signed negative Real64.undefined)
  | _ => do
      let whole ← wholeDigits
      let next ← peek?
      let radix? :=
        if signed || whole ≠ ['0'] then none
        else
          match next with
          | some 'x' => some 16
          | some 'o' => some 8
          | some 'b' => some 2
          | _ => none
      match radix? with
      | some radix => do
          set ((← get).drop 1)
          inRadix radix
      | none => decimal negative whole

/-- A number. -/
def number : Scan Value := do
  if ← takes ['-'] then unsigned true true
  else if ← takes ['+'] then unsigned false true
  else unsigned false false

/-! ## Moments -/

/-- A number of so many digits between two bounds. -/
def count (size low high : Nat) : Scan Nat := do
  let front := (← get).take size
  set ((← get).drop size)
  match Decimal.natural? 10 front with
  | some value =>
      if front.length = size && low ≤ value && value ≤ high then return value else failure
  | none => failure

/-- The days of a month of a year. -/
def daysOf (year month : Nat) : Nat :=
  if month = 2 then
    if year % 4 = 0 && (year % 100 ≠ 0 || year % 400 = 0) then 29 else 28
  else if [4, 6, 9, 11].contains month then 30
  else 31

/-- A date. -/
def date : Scan Unit := do
  let year ← count 4 0 9999
  take '-'
  let month ← count 2 1 12
  take '-'
  let _ ← count 2 1 (daysOf year month)

/-- A time of day. -/
def clock : Scan Unit := do
  let _ ← count 2 0 23
  take ':'
  let _ ← count 2 0 59
  take ':'
  let _ ← count 2 0 60
  match ← get with
  | '.' :: char :: rest => if char.isDigit then set (rest.dropWhile Char.isDigit)
  | _ => return ()

/-- The offset of a time, if there is one. -/
def offset : Scan Unit := do
  if ← takes ['Z', 'z'] then return ()
  else if ← takes ['+', '-'] then do
    let _ ← count 2 0 23
    take ':'
    let _ ← count 2 0 59
  else return ()

/-- The time of day behind a date, with its offset. -/
def clockBehindDate : Scan Unit := do
  match ← get with
  | char :: rest =>
      if ['T', 't', ' '].contains char then do
        set rest
        clock
        offset
      else failure
  | [] => failure

/-- A moment. -/
def moment : Scan Value := do
  (do date; clockBehindDate <|> pure ()) <|> clock
  return .moment

/-- A moment or a number. -/
def momentOrNumber : Scan Value :=
  moment <|> number

end RequestHub.Toml.Scalar
