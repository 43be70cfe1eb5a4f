import RequestHub.Text.Utf8

/-!
# Bytes in sixty-four characters

An envelope carries a body as text: three bytes become four characters of an alphabet of sixty-four,
and the last group is filled up with equals signs.  Decoding accepts exactly what encoding writes;
a refusal says which character, length or padding is wrong.
-/

namespace RequestHub.Text.Base64

/-- The character of a value below sixty-four. -/
def letter (value : Nat) : Char :=
  if value < 26 then Char.ofNat ('A'.toNat + value)
  else if value < 52 then Char.ofNat ('a'.toNat + (value - 26))
  else if value < 62 then Char.ofNat ('0'.toNat + (value - 52))
  else if value = 62 then '+' else '/'

/-- The value of a byte of the alphabet. -/
def value? (byte : UInt8) : Option Nat :=
  let number := byte.toNat
  if 0x41 ≤ number ∧ number ≤ 0x5A then some (number - 0x41)
  else if 0x61 ≤ number ∧ number ≤ 0x7A then some (number - 0x61 + 26)
  else if 0x30 ≤ number ∧ number ≤ 0x39 then some (number - 0x30 + 52)
  else if number = 0x2B then some 62
  else if number = 0x2F then some 63
  else none

/-- The characters of a byte sequence. -/
def encodeChars : Bytes → List Char
  | [] => []
  | [first] =>
      [letter (first.toNat / 4), letter (first.toNat % 4 * 16), '=', '=']
  | [first, second] =>
      [letter (first.toNat / 4), letter (first.toNat % 4 * 16 + second.toNat / 16),
        letter (second.toNat % 16 * 4), '=']
  | first :: second :: third :: rest =>
      letter (first.toNat / 4) :: letter (first.toNat % 4 * 16 + second.toNat / 16) ::
        letter (second.toNat % 16 * 4 + third.toNat / 64) :: letter (third.toNat % 64) ::
        encodeChars rest

/-- The text of a byte sequence. -/
def encode (bytes : Bytes) : String :=
  String.ofList (encodeChars bytes)

/-- Why a text is not the form of any byte sequence. -/
inductive Refusal where
  | symbol (byte : UInt8) (offset : Nat)
  | length (count : Nat)
  | lastSymbol (byte : UInt8) (offset : Nat)
  | padding
deriving DecidableEq, Repr

/-- The wording of a refusal. -/
def Refusal.message : Refusal → String
  | .symbol byte offset =>
      "Invalid symbol " ++ toString byte.toNat ++ ", offset " ++ toString offset ++ "."
  | .length count => "Invalid input length: " ++ toString count
  | .lastSymbol byte offset =>
      "Invalid last symbol " ++ toString byte.toNat ++ ", offset " ++ toString offset ++ "."
  | .padding => "Invalid padding"

/-- The three bytes of four values. -/
def group (first second third fourth : Nat) : Bytes :=
  [UInt8.ofNat (first * 4 + second / 16), UInt8.ofNat (second % 16 * 16 + third / 4),
    UInt8.ofNat (third % 4 * 64 + fourth)]

/-- The value of the byte at an offset. -/
def symbol (offset : Nat) (byte : UInt8) : Except Refusal Nat :=
  match value? byte with
  | some value => .ok value
  | none => .error (.symbol byte offset)

/-- The values in front of the padding of a last group, and the number of padding characters. -/
def lastValues (offset position : Nat) (values : List Nat) (padding : Nat) :
    Bytes → Except Refusal (List Nat × Nat)
  | [] => .ok (values.reverse, padding)
  | byte :: rest =>
      if byte = 0x3D then
        if position < 2 then .error (.symbol byte (offset + position))
        else lastValues offset (position + 1) values (padding + 1) rest
      else if 0 < padding then .error (.symbol 0x3D (offset + values.length))
      else do
        let value ← symbol (offset + position) byte
        lastValues offset (position + 1) (value :: values) padding rest

/-- The bytes of a last group of at most four characters. -/
def decodeLast (offset : Nat) (bytes : Bytes) : Except Refusal Bytes := do
  let (values, padding) ← lastValues offset 0 [] 0 bytes
  if values.length < 2 then .error (.length (offset + values.length))
  else if (values.length + padding) % 4 ≠ 0 then .error .padding
  else
    let refuse : Except Refusal Bytes :=
      .error (.lastSymbol (bytes.getD (values.length - 1) 0) (offset + values.length - 1))
    match values with
    | [first, second] =>
        if second % 16 ≠ 0 then refuse else .ok ((group first second 0 0).take 1)
    | [first, second, third] =>
        if third % 4 ≠ 0 then refuse else .ok ((group first second third 0).take 2)
    | [first, second, third, fourth] => .ok (group first second third fourth)
    | _ => .error .padding

/-- The bytes of whole groups and a last one, from the given offset on. -/
def decodeFrom (offset : Nat) : Bytes → Except Refusal Bytes
  | first :: second :: third :: fourth :: next :: rest => do
      let one ← symbol offset first
      let two ← symbol (offset + 1) second
      let three ← symbol (offset + 2) third
      let four ← symbol (offset + 3) fourth
      return group one two three four ++ (← decodeFrom (offset + 4) (next :: rest))
  | last => decodeLast offset last

/-- The bytes that a text stands for. -/
def decode (text : String) : Except Refusal Bytes :=
  let bytes := Bytes.ofString text
  if bytes.isEmpty then .ok []
  else
    match bytes.length % 4, bytes.getLast? with
    | 1, some last =>
        if last ≠ 0x3D && (value? last).isNone then .error (.symbol last (bytes.length - 1))
        else decodeFrom 0 bytes
    | _, _ => decodeFrom 0 bytes

end RequestHub.Text.Base64
