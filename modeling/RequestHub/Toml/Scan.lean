/-!
# Scanning characters

A scan takes characters from the front of a text, or fails.  The small scans of this module are what
the notation is made of: single characters, blanks, the ends of lines and comments.
-/

namespace RequestHub.Toml

/-- A scan of the front of a text. -/
abbrev Scan := StateT (List Char) Option

namespace Scan

/-- The next character, which stays where it is. -/
def peek? : Scan (Option Char) := do
  return (← get).head?

/-- Passes over a given character. -/
def take (expected : Char) : Scan Unit := fun chars =>
  match chars with
  | char :: rest => if char = expected then some ((), rest) else none
  | [] => none

/-- Passes over the next character if it is one of some, and tells whether it was. -/
def takes (expected : List Char) : Scan Bool := fun chars =>
  match chars with
  | char :: rest =>
      if expected.contains char then some (true, rest) else some (false, char :: rest)
  | [] => some (false, [])

/-- The characters at the front that satisfy a test. -/
def takeWhile (test : Char → Bool) : Scan (List Char) := fun chars =>
  some (chars.takeWhile test, chars.dropWhile test)

/-- The characters at the front that satisfy a test, of which there must be one. -/
def takeSome (test : Char → Bool) : Scan (List Char) := do
  let found ← takeWhile test
  if found.isEmpty then failure else return found

/-- Whether a character is a blank within a line. -/
def isSpace (char : Char) : Bool :=
  char = ' ' || char = '\t'

/-- Whether a character may stand for itself: a tab, or one that is not a control character. -/
def isPlain (char : Char) : Bool :=
  char = '\t' || (' ' ≤ char && char ≠ '\x7F')

/-- Passes over blanks within a line. -/
def skipSpaces : Scan Unit := do
  let _ ← takeWhile isSpace

/-- The text behind the end of a line, if a line ends at the front. -/
def afterLine? : List Char → Option (List Char)
  | '\n' :: rest => some rest
  | '\r' :: '\n' :: rest => some rest
  | _ => none

/-- Passes over the end of a line. -/
def lineEnd : Scan Unit := fun chars =>
  (afterLine? chars).map fun rest => ((), rest)

/-- Passes over a comment, if there is one. -/
def skipComment : Scan Unit := do
  if (← peek?) = some '#' then
    let _ ← takeWhile isPlain

/-- Passes over what may follow at the end of a line, and over its end or that of the text. -/
def endLine : Scan Unit := do
  skipSpaces
  skipComment
  if !(← get).isEmpty then lineEnd

/-- Passes over blanks, ends of lines and comments; `fuel` exceeds the number of lines. -/
def skipLines : (fuel : Nat) → Scan Unit
  | 0 => failure
  | fuel + 1 => do
      skipSpaces
      match ← peek? with
      | some '#' => do
          skipComment
          lineEnd
          skipLines fuel
      | some '\n' | some '\r' => do
          lineEnd
          skipLines fuel
      | _ => return ()

/-- More than the number of steps that a scan of the text can take. -/
def bound : Scan Nat := do
  return (← get).length + 1

/-- What a scan finds in a text, of which it must leave nothing. -/
def whole? {α : Type} (scan : Scan α) (chars : List Char) : Option α :=
  match scan.run chars with
  | some (value, []) => some value
  | _ => none

end Scan

end RequestHub.Toml
