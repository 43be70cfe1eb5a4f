/-!
# Bytes and text

Bodies and header values are sequences of bytes; names, paths and messages are text.  This module
joins the two by UTF-8.

A leading byte fixes the ranges in which the bytes after it must lie.  `scan` follows these ranges
and reads one scalar value, or stops behind the longest broken beginning of one.  `decode?` accepts
well-formed sequences only, and `decodeLossy` puts one replacement character in the place of each
broken beginning.
-/

namespace RequestHub

/-- A sequence of bytes, as bodies and header values hold them. -/
abbrev Bytes := List UInt8

namespace Bytes

/-- The UTF-8 form of a text. -/
def ofString (text : String) : Bytes :=
  text.toList.flatMap String.utf8EncodeChar

/-- The bits of a scalar value that a leading byte carries, and the ranges of the bytes after it. -/
def lead? (first : UInt8) : Option (Nat × List (UInt8 × UInt8)) :=
  if first < 0x80 then some (first.toNat, [])
  else if first < 0xC2 then none
  else if first < 0xE0 then some (first.toNat - 0xC0, [(0x80, 0xBF)])
  else if first = 0xE0 then some (0, [(0xA0, 0xBF), (0x80, 0xBF)])
  else if first = 0xED then some (0xD, [(0x80, 0x9F), (0x80, 0xBF)])
  else if first < 0xF0 then some (first.toNat - 0xE0, [(0x80, 0xBF), (0x80, 0xBF)])
  else if first = 0xF0 then some (0, [(0x90, 0xBF), (0x80, 0xBF), (0x80, 0xBF)])
  else if first < 0xF4 then
    some (first.toNat - 0xF0, [(0x80, 0xBF), (0x80, 0xBF), (0x80, 0xBF)])
  else if first = 0xF4 then some (4, [(0x80, 0x8F), (0x80, 0xBF), (0x80, 0xBF)])
  else none

/-- Adds the bytes that must follow to the bits read so far, and stops at the first misfit. -/
def follow (value : Nat) : List (UInt8 × UInt8) → Bytes → Option Char × Bytes
  | [], rest => (some (Char.ofNat value), rest)
  | _ :: _, [] => (none, [])
  | (low, high) :: ranges, byte :: rest =>
      if low ≤ byte ∧ byte ≤ high then
        follow (value * 64 + byte.toNat % 64) ranges rest
      else (none, byte :: rest)

/--
Reads one scalar value whose first byte is `first`.  The answer holds the scalar value, or nothing
when the bytes break off, and the bytes after it or after the longest broken beginning.
-/
def scan (first : UInt8) (rest : Bytes) : Option Char × Bytes :=
  match lead? first with
  | some (value, ranges) => follow value ranges rest
  | none => (none, rest)

theorem length_follow_le (value : Nat) (ranges : List (UInt8 × UInt8)) (rest : Bytes) :
    (follow value ranges rest).2.length ≤ rest.length := by
  induction ranges generalizing value rest with
  | nil => simp [follow]
  | cons range ranges ih =>
      cases rest with
      | nil => simp [follow]
      | cons byte rest =>
          simp only [follow]
          split
          · exact Nat.le_succ_of_le (ih _ _)
          · exact Nat.le_refl _

/-- A scan never gives back more bytes than it was offered after the first. -/
theorem length_scan_le (first : UInt8) (rest : Bytes) :
    (scan first rest).2.length ≤ rest.length := by
  unfold scan
  split
  · exact length_follow_le _ _ _
  · exact Nat.le_refl _

/-- The scalar values of a byte sequence, with `none` for each broken beginning. -/
def scalars : Bytes → List (Option Char)
  | [] => []
  | first :: rest =>
      (scan first rest).1 :: scalars (scan first rest).2
termination_by bytes => bytes.length
decreasing_by
  have := length_scan_le first rest
  simp only [List.length_cons]
  omega

/-- The text that a byte sequence spells, if it is well-formed UTF-8. -/
def decode? (bytes : Bytes) : Option String :=
  ((scalars bytes).mapM id).map String.ofList

/-- The text of a byte sequence, with U+FFFD for every broken beginning. -/
def decodeLossy (bytes : Bytes) : String :=
  String.ofList ((scalars bytes).map fun scalar => scalar.getD '\uFFFD')

@[simp]
theorem decodeLossy_nil : decodeLossy [] = "" := by
  rw [decodeLossy, scalars]
  rfl

/-- A byte of the visible ASCII range, or a tab. -/
def isVisible (byte : UInt8) : Bool :=
  (0x20 ≤ byte && byte < 0x7F) || byte == 0x09

/-- The text of a byte sequence that holds visible ASCII and tabs only. -/
def visibleText? (bytes : Bytes) : Option String :=
  if bytes.all isVisible then
    some (String.ofList (bytes.map fun byte => Char.ofNat byte.toNat))
  else none

end Bytes

end RequestHub
