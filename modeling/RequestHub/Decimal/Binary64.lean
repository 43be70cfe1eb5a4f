import RequestHub.Decimal.Power

/-!
# Binary floating-point numbers

A number of 64 bits is kept as its bit pattern, so that two numbers are equal exactly when they have
the same bits.  A finite number is `mantissa * 2 ^ exponent` with a sign; `Real64.ofScaled` rounds
a decimal fraction to the nearest number.
-/

namespace RequestHub

/-- A binary floating-point number of 64 bits, kept as its bit pattern. -/
structure Real64 where
  bits : UInt64
deriving DecidableEq, Inhabited, Repr

namespace Real64

/-- The number as the machine calculates with it. -/
def toFloat (number : Real64) : Float :=
  Float.ofBits number.bits

/-- The bit pattern of a machine number. -/
def ofFloat (number : Float) : Real64 :=
  ⟨number.toBits⟩

/-- Whether the sign bit is set. -/
def isNegative (number : Real64) : Bool :=
  number.bits.toNat / twoTo 63 == 1

/-- The eleven bits of the exponent. -/
def biased (number : Real64) : Nat :=
  number.bits.toNat / twoTo 52 % twoTo 11

/-- The fifty-two bits of the fraction. -/
def fraction (number : Real64) : Nat :=
  number.bits.toNat % twoTo 52

/-- Whether the number is neither infinite nor undefined. -/
def isFinite (number : Real64) : Bool :=
  number.biased < 2047

/-- Whether the number is undefined. -/
def isUndefined (number : Real64) : Bool :=
  number.biased == 2047 && number.fraction != 0

/-- The integer that a finite number scales by a power of two. -/
def mantissa (number : Real64) : Nat :=
  if number.biased = 0 then number.fraction else number.fraction + twoTo 52

/-- The power of two by which a finite number scales its mantissa. -/
def exponent (number : Real64) : Int :=
  if number.biased = 0 then -1074 else number.biased - 1075

/-- The number without its sign. -/
def magnitude (number : Real64) : Real64 :=
  ⟨UInt64.ofNat (number.bits.toNat % twoTo 63)⟩

/-- Whether the number is one of the two zeros. -/
def isZero (number : Real64) : Bool :=
  number.biased == 0 && number.fraction == 0

/-- The number one. -/
def one : Real64 :=
  ⟨0x3FF0000000000000⟩

/-- Whether the number is one or more. -/
def isOneOrMore (number : Real64) : Bool :=
  !number.isNegative && !number.isUndefined && one.bits ≤ number.bits

/-- Whether the number is greater than zero. -/
def isPositive (number : Real64) : Bool :=
  !number.isNegative && !number.isUndefined && !number.isZero

/-- Whether the number lies between zero and one, both included. -/
def isShare (number : Real64) : Bool :=
  number.isZero || (!number.isNegative && number.bits ≤ one.bits)

/-- The greatest natural number that is not above the magnitude times a power of two. -/
def floorScaled (number : Real64) (power : Nat) : Nat :=
  match number.exponent + power with
  | .ofNat shift => number.mantissa * twoTo shift
  | .negSucc shift => number.mantissa / twoTo (shift + 1)

/-- One of the two infinities. -/
def infinity (negative : Bool) : Real64 :=
  if negative then ⟨0xFFF0000000000000⟩ else ⟨0x7FF0000000000000⟩

/-- The undefined number. -/
def undefined : Real64 :=
  ⟨0x7FF8000000000000⟩

/-- The number with its sign turned if asked. -/
def signed (negative : Bool) (number : Real64) : Real64 :=
  if negative then ofFloat (-number.toFloat) else number

/--
The number nearest to `digits * 10 ^ power`.  Magnitudes beyond the range become infinite and those
below it vanish, whatever the size of the exponent.
-/
def ofScaled (negative : Bool) (digits : Nat) (power : Int) : Real64 :=
  let size : Int := (Nat.toDigits 10 digits).length
  let magnitude : Real64 :=
    if digits = 0 then ⟨0⟩
    else if size + power > 400 then infinity false
    else if size + power < -400 then ⟨0⟩
    else
      match power with
      | .ofNat positive => ofFloat (Float.ofScientific digits false positive)
      | .negSucc below => ofFloat (Float.ofScientific digits true (below + 1))
  signed negative magnitude

/-- The number nearest to an integer. -/
def ofInt (value : Int) : Real64 :=
  ofScaled (value < 0) value.natAbs 0

end Real64

end RequestHub
