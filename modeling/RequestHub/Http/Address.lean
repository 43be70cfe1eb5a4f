import RequestHub.Decimal.Power
import RequestHub.Decimal.Reading

/-!
# Socket addresses

A listener is bound to an address and a port.  An address is either four bytes between points or
eight groups of hexadecimal digits between colons, of which one run of zeros may be left out; the
second kind stands in brackets in front of the port.  The written form is unique: no needless digits,
and the longest run of zeros is left out.
-/

namespace RequestHub

/-- An internet address. -/
inductive IpAddress where
  | four (bytes : List Nat)
  | six (groups : List Nat) (scope : Nat)
deriving DecidableEq, Inhabited, Repr

/-- An address and a port. -/
structure SocketAddress where
  ip : IpAddress
  port : Nat
deriving DecidableEq, Inhabited, Repr

namespace SocketAddress

/-! ## Reading -/

/-- A number of at most `most` digits of a radix below `bound`, and what follows it. -/
def number? (radix : Nat) (most : Option Nat) (zeros : Bool) (bound : Nat) (chars : List Char) :
    Option (Nat × List Char) := do
  let digits := chars.takeWhile fun char => (Decimal.digitValue? radix char).isSome
  let value ← Decimal.natural? radix digits
  if (most.any fun most => most < digits.length) || bound ≤ value ||
      (!zeros && digits.length > 1 && digits.head? = some '0') then none
  else return (value, chars.drop digits.length)

/-- What follows a given character. -/
def after? (expected : Char) : List Char → Option (List Char)
  | char :: rest => if char = expected then some rest else none
  | [] => none

/-- Four bytes between points, and what follows them. -/
def four? (chars : List Char) : Option (List Nat × List Char) := do
  let (first, rest) ← number? 10 (some 3) false 256 chars
  let (second, rest) ← number? 10 (some 3) false 256 (← after? '.' rest)
  let (third, rest) ← number? 10 (some 3) false 256 (← after? '.' rest)
  let (fourth, rest) ← number? 10 (some 3) false 256 (← after? '.' rest)
  return ([first, second, third, fourth], rest)

/-- At most `room` groups between colons; the last two may be written as four bytes. -/
def groups (first : Bool) : (room : Nat) → List Char → List Nat × Bool × List Char
  | 0, chars => ([], false, chars)
  | room + 1, chars =>
      let start? := if first then some chars else after? ':' chars
      let embedded? := if room = 0 then none else start?.bind four?
      match embedded? with
      | some ([one, two, three, four], rest) =>
          ([one * 256 + two, three * 256 + four], true, rest)
      | _ =>
          match start?.bind (number? 16 (some 4) true 65536) with
          | some (group, rest) =>
              let (others, embedded, rest) := groups false room rest
              (group :: others, embedded, rest)
          | none => ([], false, chars)

/-- Eight groups, some of which may be left out, and what follows them. -/
def six? (chars : List Char) : Option (List Nat × List Char) := do
  let (head, embedded, rest) := groups true 8 chars
  if head.length = 8 then return (head, rest)
  else if embedded then none
  else do
    let rest ← after? ':' (← after? ':' rest)
    let (tail, _, rest) := groups true (7 - head.length) rest
    return (head ++ List.replicate (8 - head.length - tail.length) 0 ++ tail, rest)

/-- A colon and a port, and nothing more. -/
def port? (chars : List Char) : Option Nat := do
  let (port, rest) ← number? 10 none true 65536 (← after? ':' chars)
  if rest.isEmpty then return port else none

/-- The address and port that a text spells. -/
def ofString? (text : String) : Option SocketAddress :=
  match four? text.toList with
  | some (bytes, rest) => (port? rest).map fun port => ⟨.four bytes, port⟩
  | none => do
      let (groups, rest) ← six? (← after? '[' text.toList)
      let (scope, rest) ←
        match after? '%' rest with
        | some rest => number? 10 none true (twoTo 32) rest
        | none => some (0, rest)
      return ⟨.six groups scope, ← port? (← after? ']' rest)⟩

/-- What is said of a text that spells no address and port. -/
def refusal : String := "invalid socket address syntax"

/-! ## Writing -/

/-- Four bytes between points. -/
def fourText (bytes : List Nat) : String :=
  String.intercalate "." (bytes.map toString)

/-- Groups between colons. -/
def groupsText (groups : List Nat) : String :=
  String.intercalate ":" (groups.map fun group => String.ofList (Nat.toDigits 16 group))

/-- The length of the run of zeros at the front. -/
def zeroRun (groups : List Nat) : Nat :=
  (groups.takeWhile (· = 0)).length

/-- The start and the length of the longest run of zeros, the first of several. -/
def longestRun (groups : List Nat) : Nat × Nat :=
  (List.range groups.length).foldl
    (fun best start =>
      let length := zeroRun (groups.drop start)
      if best.2 < length then (start, length) else best)
    (0, 0)

/-- The written form of eight groups. -/
def sixText (groups : List Nat) : String :=
  match groups with
  | [0, 0, 0, 0, 0, 65535, high, low] =>
      "::ffff:" ++ fourText [high / 256, high % 256, low / 256, low % 256]
  | _ =>
      let (start, length) := longestRun groups
      if length > 1 then
        groupsText (groups.take start) ++ "::" ++ groupsText (groups.drop (start + length))
      else groupsText groups

/-- The written form of an address and a port. -/
def text (address : SocketAddress) : String :=
  match address.ip with
  | .four bytes => fourText bytes ++ ":" ++ toString address.port
  | .six groups scope =>
      "[" ++ sixText groups ++ (if scope = 0 then "" else "%" ++ toString scope) ++ "]:" ++
        toString address.port

/-- The address with another port. -/
def withPort (address : SocketAddress) (port : Nat) : SocketAddress :=
  { address with port := port }

end SocketAddress

end RequestHub
