import RequestHub.Text.Split
import RequestHub.Text.Utf8

/-!
# Percent-encoded text

A query spells a character that would have a meaning of its own by a percent sign and two hexadecimal
digits for each byte of its UTF-8 form, and may write a space as a plus sign.  `decodeForm` undoes
both; a percent sign without two digits stands for itself, and a component that would not be text
after decoding keeps its percent signs.
-/

namespace RequestHub.Text.Percent

/-- The value of a hexadecimal digit. -/
def hexValue? (byte : UInt8) : Option Nat :=
  let number := byte.toNat
  if 0x30 ≤ number ∧ number ≤ 0x39 then some (number - 0x30)
  else if 0x41 ≤ number ∧ number ≤ 0x46 then some (number - 0x41 + 10)
  else if 0x61 ≤ number ∧ number ≤ 0x66 then some (number - 0x61 + 10)
  else none

/-- The bytes that percent-encoded bytes stand for. -/
def decodeBytes : Bytes → Bytes
  | [] => []
  | [byte] => [byte]
  | [first, second] => [first, second]
  | first :: second :: third :: rest =>
      if first = 0x25 then
        match hexValue? second, hexValue? third with
        | some high, some low => UInt8.ofNat (high * 16 + low) :: decodeBytes rest
        | _, _ => first :: decodeBytes (second :: third :: rest)
      else first :: decodeBytes (second :: third :: rest)

/-- A text in which plus signs are spaces. -/
def spaced (text : List Char) : List Char :=
  text.map fun char => if char = '+' then ' ' else char

/-- The text that a component of a query stands for. -/
def decodeForm (text : List Char) : String :=
  let plain := String.ofList (spaced text)
  (Bytes.decode? (decodeBytes (Bytes.ofString plain))).getD plain

end RequestHub.Text.Percent
