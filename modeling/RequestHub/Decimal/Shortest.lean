import RequestHub.Decimal.Binary64
import RequestHub.Decimal.Power

/-!
# The shortest decimal that reads back

A finite binary number stands for an interval of real numbers: those that round to it.  Its shortest
decimal is the one with the fewest digits in that interval and, among these, the nearest to the
number.  On the grid of decimals with a fixed number of digits only the two neighbours of the number
have to be tried, so that the search below tries two candidates on each of at most seventeen grids.

How the digits are laid out is a matter of the format: a `Layout` says which magnitudes are written
positionally and how an exponent looks.
-/

namespace RequestHub.Decimal

/-- A positive fraction of two natural numbers. -/
structure Ratio where
  top : Nat
  bottom : Nat
deriving DecidableEq, Repr

namespace Ratio

/-- Whether one fraction is below another. -/
def below (left right : Ratio) : Bool :=
  left.top * right.bottom < right.top * left.bottom

/-- A multiple of a power of `base`. -/
def scaled (factor base : Nat) (power : Int) : Ratio :=
  match power with
  | .ofNat positive => ⟨factor * Nat.pow base positive, 1⟩
  | .negSucc negative => ⟨factor, Nat.pow base (negative + 1)⟩

/-- The distance between two fractions. -/
def distance (left right : Ratio) : Ratio :=
  let one := left.top * right.bottom
  let other := right.top * left.bottom
  ⟨if one < other then other - one else one - other, left.bottom * right.bottom⟩

end Ratio

/-- The real numbers that round to one binary number. -/
structure Interval where
  low : Ratio
  value : Ratio
  high : Ratio
  closed : Bool
deriving DecidableEq, Repr

/-- The interval of `mantissa * 2 ^ exponent`; its ends belong to it when the mantissa is even. -/
def Interval.around (mantissa : Nat) (exponent : Int) : Interval :=
  let below := if mantissa = twoTo 52 ∧ exponent > -1074 then 1 else 2
  { low := Ratio.scaled (4 * mantissa - below) 2 (exponent - 2)
    value := Ratio.scaled (4 * mantissa) 2 (exponent - 2)
    high := Ratio.scaled (4 * mantissa + 2) 2 (exponent - 2)
    closed := mantissa % 2 = 0 }

/-- Whether a fraction rounds to the number that the interval belongs to. -/
def Interval.holds (interval : Interval) (ratio : Ratio) : Bool :=
  if interval.closed then !ratio.below interval.low && !interval.high.below ratio
  else interval.low.below ratio && ratio.below interval.high

/-- A decimal: `digits * 10 ^ power`. -/
structure Numeral where
  digits : Nat
  power : Int
deriving DecidableEq, Repr

/-- The value of a decimal. -/
def Numeral.ratio (numeral : Numeral) : Ratio :=
  Ratio.scaled numeral.digits 10 numeral.power

/-- The decimal exponent of a positive fraction: the power of ten of its leading digit. -/
def leadingPower (ratio : Ratio) : Int :=
  let estimate : Int := (Nat.toDigits 10 ratio.top).length - (Nat.toDigits 10 ratio.bottom).length
  if ratio.below (Ratio.scaled 1 10 estimate) then estimate - 1 else estimate

/-- The nearest of the two neighbours on the grid of the given power that the interval holds. -/
def neighbour? (interval : Interval) (power : Int) : Option Numeral :=
  let unit := Ratio.scaled 1 10 power
  let floor := interval.value.top * unit.bottom / (interval.value.bottom * unit.top)
  let lower : Numeral := ⟨floor, power⟩
  let upper : Numeral := ⟨floor + 1, power⟩
  let lowerFits := floor > 0 && interval.holds lower.ratio
  let upperFits := interval.holds upper.ratio
  if lowerFits && upperFits then
    let down := interval.value.distance lower.ratio
    let up := interval.value.distance upper.ratio
    if down.below up then some lower
    else if up.below down then some upper
    else if floor % 2 = 0 then some lower else some upper
  else if lowerFits then some lower
  else if upperFits then some upper
  else none

/-- The shortest decimal of a positive binary number. -/
def shortest (mantissa : Nat) (exponent : Int) : Numeral :=
  let interval := Interval.around mantissa exponent
  let leading := leadingPower interval.value
  ((List.range 17).findSome? fun (places : Nat) => neighbour? interval (leading - places)).getD
    ⟨mantissa, 0⟩

/-- How a number is laid out. -/
structure Layout where
  /-- The least and the greatest power of the leading digit that is written positionally. -/
  positional : Int → Bool
  /-- Whether a whole number is written with a fraction of zero. -/
  wholeFraction : Bool
  /-- Whether a positive exponent has a sign. -/
  exponentSign : Bool

/-- The digits of a decimal and the power of the leading one. -/
def Numeral.spread (numeral : Numeral) : List Char × Int :=
  let digits := Nat.toDigits 10 numeral.digits
  let trimmed := (digits.reverse.dropWhile (· = '0')).reverse
  (if trimmed.isEmpty then ['0'] else trimmed, numeral.power + (digits.length - 1 : Int))

/-- Digits with the decimal point behind the digit of power zero. -/
def placePoint (layout : Layout) (digits : List Char) (leading : Int) : List Char :=
  if leading < 0 then
    ['0', '.'] ++ List.replicate (leading.natAbs - 1) '0' ++ digits
  else
    let before := leading.toNat + 1
    if digits.length ≤ before then
      digits ++ List.replicate (before - digits.length) '0' ++
        (if layout.wholeFraction then ['.', '0'] else [])
    else digits.take before ++ ['.'] ++ digits.drop before

/-- Digits with the point behind the first one, and an exponent. -/
def placeExponent (layout : Layout) (digits : List Char) (leading : Int) : List Char :=
  let mantissa :=
    match digits with
    | first :: second :: rest => first :: '.' :: second :: rest
    | _ => digits
  let sign := if leading < 0 then ['-'] else if layout.exponentSign then ['+'] else []
  mantissa ++ ['e'] ++ sign ++ Nat.toDigits 10 leading.natAbs

/-- The written form of a number without its sign. -/
def layOut (layout : Layout) (number : Real64) : List Char :=
  if number.isZero then if layout.wholeFraction then ['0', '.', '0'] else ['0']
  else
    let (digits, leading) := (shortest number.mantissa number.exponent).spread
    if layout.positional leading then placePoint layout digits leading
    else placeExponent layout digits leading

/-- The written form of a number. -/
def write (layout : Layout) (number : Real64) : String :=
  if number.isUndefined then "NaN"
  else
    let body := if number.isFinite then layOut layout number else "inf".toList
    String.ofList (if number.isNegative then '-' :: body else body)

/-- Settings and messages write every number positionally, and whole numbers without a fraction. -/
def plain : Layout where
  positional := fun _ => true
  wholeFraction := false
  exponentSign := false

end RequestHub.Decimal

namespace RequestHub.Real64

/-- The positional text of a number, as messages show it. -/
def text (number : Real64) : String :=
  Decimal.write Decimal.plain number

end RequestHub.Real64
