import RequestHub.Decimal.Power

/-!
# Identifiers

Requests and documents are identified by numbers of 128 bits.  They are written as five groups of
hexadecimal digits; when read, the groups may also be run together, stand in braces or follow a
prefix.  A new identifier begins with the time of its making, so that later ones are greater.
-/

namespace RequestHub

/-- An identifier of 128 bits. -/
structure Uuid where
  value : Nat
deriving DecidableEq, Inhabited, Repr

namespace Uuid

/-- The lengths of the five groups of digits. -/
def groupLengths : List Nat := [8, 4, 4, 4, 12]

/-- The places of the hyphens between the groups. -/
def hyphenPlaces : List Nat := [8, 13, 18, 23]

/-- The thirty-two digits of an identifier. -/
def digits (id : Uuid) : List Char :=
  let significant := Nat.toDigits 16 (id.value % twoTo 128)
  List.replicate (32 - significant.length) '0' ++ significant

/-- Digits cut into groups joined by hyphens. -/
def group : List Nat → List Char → List Char
  | [], _ => []
  | [last], chars => chars.take last
  | length :: lengths, chars => chars.take length ++ '-' :: group lengths (chars.drop length)

/-- The written form of an identifier. -/
def text (id : Uuid) : String :=
  String.ofList (group groupLengths id.digits)

/-- Why a text is not an identifier. -/
inductive Refusal where
  | character (char : Char) (index : Nat)
  | simpleLength (length : Nat)
  | groupCount (count : Nat)
  | groupLength (group expected found : Nat)
deriving DecidableEq, Repr

/-- The wording of a refusal. -/
def Refusal.message : Refusal → String
  | .character char index =>
      "invalid character: found `" ++ String.singleton char ++ "` at " ++ toString index
  | .simpleLength length =>
      "invalid length: expected length 32 for simple format, found " ++ toString length
  | .groupCount count => "invalid group count: expected 5, found " ++ toString count
  | .groupLength group expected found =>
      "invalid group length in group " ++ toString group ++ ": expected " ++ toString expected ++
        ", found " ++ toString found

/-- The value of a hexadecimal digit. -/
def hexValue? (char : Char) : Option Nat :=
  if char.isDigit then some (char.toNat - '0'.toNat)
  else if 'a' ≤ char && char ≤ 'f' then some (char.toNat - 'a'.toNat + 10)
  else if 'A' ≤ char && char ≤ 'F' then some (char.toNat - 'A'.toNat + 10)
  else none

/-- The number of thirty-two digits. -/
def ofDigits? (chars : List Char) : Option Uuid :=
  if chars.length = 32 then
    (chars.foldl (fun value char => do return (← value) * 16 + (← hexValue? char)) (some 0)).map
      Uuid.mk
  else none

/-- The number of five groups joined by hyphens. -/
def ofGroups? (chars : List Char) : Option Uuid :=
  if chars.length = 36 && hyphenPlaces.all fun place => chars[place]? = some '-' then
    ofDigits? (chars.filter (· ≠ '-'))
  else none

/-- The part of a text inside its wrapping, the length of what stands before it, and whether it has
no wrapping. -/
def unwrap (chars : List Char) : List Char × Nat × Bool :=
  if chars.head? = some '\x7b' && chars.getLast? = some '\x7d' then
    ((chars.drop 1).dropLast, 1, false)
  else if chars.take 9 = "urn:uuid:".toList then (chars.drop 9, 9, false)
  else (chars, 0, true)

/-- The first group between the given hyphens that has the wrong length. -/
def wrongGroup? (total : Nat) : (group : Nat) → (start : Nat) → (lengths bounds : List Nat) →
    Refusal
  | group, start, expected :: lengths, bound :: bounds =>
      if bound ≠ start + expected then .groupLength group expected (bound - start)
      else wrongGroup? total (group + 1) (bound + 1) lengths bounds
  | group, start, expected :: _, [] => .groupLength group expected (total - start)
  | group, _, [], _ => .groupLength group 0 0

/-- Why characters are not an identifier, given that they are none. -/
def explain (chars : List Char) : Refusal :=
  let (body, offset, simple) := unwrap chars
  let indexed := body.zipIdx
  match indexed.find? fun (char, _) => char ≠ '-' && (hexValue? char).isNone with
  | some (char, index) =>
      .character char (offset + (String.ofList (body.take index)).utf8ByteSize)
  | none =>
      let hyphens := (indexed.filter fun (char, _) => char = '-').map (·.2)
      if hyphens.isEmpty && simple then .simpleLength chars.length
      else if hyphens.length ≠ 4 then .groupCount (hyphens.length + 1)
      else wrongGroup? chars.length 0 0 groupLengths hyphens

/-- The identifier that a text spells. -/
def ofString (text : String) : Except Refusal Uuid :=
  let chars := text.toList
  let (body, _, simple) := unwrap chars
  match if simple && chars.length = 32 then ofDigits? chars else ofGroups? body with
  | some id => .ok id
  | none => .error (explain chars)

/--
A new identifier: forty-eight bits of the time in milliseconds, the version, and the number of
identifiers made before it.
-/
def fresh (millis serial : Nat) : Uuid :=
  ⟨(millis % twoTo 48) * twoTo 80 + 7 * twoTo 76 + (serial / twoTo 62 % twoTo 12) * twoTo 64 + twoTo 63 +
    serial % twoTo 62⟩

end Uuid

end RequestHub
