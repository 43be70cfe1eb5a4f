import RequestHub.Decimal.Binary64
import RequestHub.Decimal.Power

/-!
# Durations

A duration is a number of nanoseconds; its seconds have at most 64 bits.  Configurations give durations
in seconds with fractions, which are rounded to the nearest nanosecond, and to the even one of two.
-/

namespace RequestHub.Duration

/-- The nanoseconds of a second. -/
def second : Nat := 1000000000

/-- The nanoseconds of a millisecond. -/
def milli : Nat := 1000000

/-- Durations cannot be longer than this. -/
def greatest : Nat := (twoTo 64 - 1) * second + (second - 1)

/-- Why a number of seconds is no duration. -/
inductive Refusal where
  | negative
  | tooGreat
deriving DecidableEq, Repr

/-- The wording of a refusal. -/
def Refusal.message : Refusal → String
  | .negative => "cannot convert float seconds to Duration: value is negative"
  | .tooGreat => "cannot convert float seconds to Duration: value is either too big or NaN"

/-- The nearest integer to a quotient, the even one of two. -/
def roundDiv (numerator denominator : Nat) : Nat :=
  let quotient := numerator / denominator
  let twice := 2 * (numerator % denominator)
  if twice > denominator || (twice = denominator && quotient % 2 = 1) then quotient + 1
  else quotient

/-- The duration of a number of seconds. -/
def ofSeconds (seconds : Real64) : Except Refusal Nat :=
  if seconds.isUndefined then .error .tooGreat
  else if seconds.isNegative && !seconds.isZero then .error .negative
  else if !seconds.isFinite then .error .tooGreat
  else
    let nanos :=
      match seconds.exponent with
      | .ofNat shift => seconds.mantissa * twoTo shift * second
      | .negSucc shift => roundDiv (seconds.mantissa * second) (twoTo (shift + 1))
    if nanos ≤ greatest then .ok nanos else .error .tooGreat

/-- The number of seconds of a duration, as nearly as it can be told. -/
def toSeconds (duration : Nat) : Real64 :=
  let whole := Real64.ofInt (duration / second)
  let part := Real64.ofInt (duration % second)
  Real64.ofFloat (whole.toFloat + part.toFloat / (Real64.ofInt second).toFloat)

/-- A duration made longer or shorter by a factor, if the result is a duration. -/
def scaled? (duration : Nat) (factor : Real64) : Option Nat :=
  (ofSeconds (.ofFloat ((toSeconds duration).toFloat * factor.toFloat))).toOption

/-! ## Writing -/

/-- A number of units with the digits of a fraction, of which those at the end that are zero are left
out. -/
def quantity (duration unit width : Nat) (name : String) : String :=
  let digits := Nat.toDigits 10 (duration % unit)
  let padded := List.replicate (width - digits.length) '0' ++ digits
  let shown := (padded.reverse.dropWhile (· = '0')).reverse
  toString (duration / unit) ++
    (if shown.isEmpty then "" else "." ++ String.ofList shown) ++ name

/-- A duration in the greatest unit of which it has one. -/
def text (duration : Nat) : String :=
  if second ≤ duration then quantity duration second 9 "s"
  else if milli ≤ duration then quantity duration milli 6 "ms"
  else if 1000 ≤ duration then quantity duration 1000 3 "µs"
  else toString duration ++ "ns"

end RequestHub.Duration
