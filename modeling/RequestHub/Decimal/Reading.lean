import RequestHub.Decimal.Binary64
import RequestHub.Text.Split

/-!
# Reading numbers from settings

Settings, environment variables and plain scalars spell numbers as texts.  A whole number is a sign
and digits of one radix; a floating-point number is a decimal fraction with an optional exponent, or
one of the names of the infinities and of the undefined number.
-/

namespace RequestHub.Decimal

/-- The value of a digit of a radix of at most thirty-six. -/
def digitValue? (radix : Nat) (char : Char) : Option Nat :=
  let value :=
    if char.isDigit then some (char.toNat - '0'.toNat)
    else if 'a' ≤ char && char ≤ 'z' then some (char.toNat - 'a'.toNat + 10)
    else if 'A' ≤ char && char ≤ 'Z' then some (char.toNat - 'A'.toNat + 10)
    else none
  value.filter (· < radix)

/-- The natural number that digits of a radix spell; there must be at least one. -/
def natural? (radix : Nat) (digits : List Char) : Option Nat :=
  if digits.isEmpty then none
  else
    digits.foldl
      (fun value digit => do return (← value) * radix + (← digitValue? radix digit)) (some 0)

/-- The integer that an optional sign and digits spell. -/
def integer? (radix : Nat) (text : List Char) : Option Int :=
  match text with
  | '-' :: digits => (natural? radix digits).map fun value => -(value : Int)
  | '+' :: digits => (natural? radix digits).map fun value => (value : Int)
  | digits => (natural? radix digits).map fun value => (value : Int)

/-- A text in small letters of the ASCII range. -/
def small (text : List Char) : List Char :=
  text.map Char.toLower

/-- A decimal fraction without sign: its digits and the power of ten that scales them. -/
def fraction? (text : List Char) : Option (Nat × Int) := do
  let whole := text.takeWhile Char.isDigit
  let afterWhole := text.dropWhile Char.isDigit
  let (part, afterPart) :=
    match afterWhole with
    | '.' :: rest => (rest.takeWhile Char.isDigit, rest.dropWhile Char.isDigit)
    | rest => ([], rest)
  if whole.isEmpty && part.isEmpty then none
  else do
    let digits ← natural? 10 (whole ++ part)
    match afterPart with
    | [] => return (digits, -(part.length : Int))
    | mark :: exponent =>
        if mark = 'e' || mark = 'E' then do
          let power ← integer? 10 exponent
          return (digits, power - part.length)
        else none

/-- The number that a text spells. -/
def real? (text : List Char) : Option Real64 :=
  let (negative, body) :=
    match text with
    | '-' :: rest => (true, rest)
    | '+' :: rest => (false, rest)
    | rest => (false, rest)
  if small body = "inf".toList || small body = "infinity".toList then
    some (Real64.infinity negative)
  else if small body = "nan".toList then some (Real64.signed negative Real64.undefined)
  else (fraction? body).map fun (digits, power) => Real64.ofScaled negative digits power

end RequestHub.Decimal
