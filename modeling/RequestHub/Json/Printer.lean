import RequestHub.Json.Basic

/-!
# The compact text of JSON values

Values are written without blanks.  Floating-point numbers are written with the fewest digits that
read back, positionally for moderate magnitudes and with a signed exponent for others; a whole number
keeps its fraction so that it reads back as a floating-point number.
-/

namespace RequestHub.Json

/-- Leading digits from the sixth place behind the point to the sixteenth before it are written
positionally, whole numbers keep a fraction, and exponents have a sign. -/
def numberLayout : Decimal.Layout where
  positional := fun leading => -5 ≤ leading && leading ≤ 15
  wholeFraction := true
  exponentSign := true

/-- The text of a number; the numbers that JSON cannot write become `null`. -/
def Number.render : Number → String
  | .integer value => toString value
  | .real value => if value.isFinite then Decimal.write numberLayout value else "null"

/-- The two lower-case hexadecimal digits of a control character. -/
def controlDigits (char : Char) : List Char :=
  let digit (value : Nat) := Nat.digitChar value
  [digit (char.toNat / 16), digit (char.toNat % 16)]

/-- The written form of one character of a string. -/
def escape (char : Char) : List Char :=
  if char = '"' then ['\\', '"']
  else if char = '\\' then ['\\', '\\']
  else if char = '\n' then ['\\', 'n']
  else if char = '\r' then ['\\', 'r']
  else if char = '\t' then ['\\', 't']
  else if char = '\x08' then ['\\', 'b']
  else if char = '\x0c' then ['\\', 'f']
  else if char.toNat < 0x20 then ['\\', 'u', '0', '0'] ++ controlDigits char
  else [char]

/-- The written form of a string. -/
def renderString (text : String) : List Char :=
  '"' :: text.toList.flatMap escape ++ ['"']

mutual

/-- The characters of a value. -/
def renderChars : Json → List Char
  | .null => "null".toList
  | .bool true => "true".toList
  | .bool false => "false".toList
  | .number value => value.render.toList
  | .string text => renderString text
  | .array items => '[' :: renderItems items ++ [']']
  | .object members => '\x7b' :: renderMembers members ++ ['\x7d']

/-- The characters of the items of an array. -/
def renderItems : List Json → List Char
  | [] => []
  | [item] => renderChars item
  | item :: items => renderChars item ++ ',' :: renderItems items

/-- The characters of the members of an object. -/
def renderMembers : List (String × Json) → List Char
  | [] => []
  | [(name, value)] => renderString name ++ ':' :: renderChars value
  | (name, value) :: members =>
      renderString name ++ ':' :: renderChars value ++ ',' :: renderMembers members

end

/-- The compact text of a value. -/
def render (value : Json) : String :=
  String.ofList value.renderChars

end RequestHub.Json
