import RequestHub.Text.Case
import RequestHub.Text.HiddenTable

/-!
# Quoted texts

Messages and descriptions show a text between double quotes, so that its ends and its hidden
characters can be seen.  Quotes and backslashes are escaped, the usual controls have a letter each,
and every other hidden character is written by its number.
-/

namespace RequestHub.Text.Quoted

/-- Whether a quoted text writes a character by number. -/
def isHidden (char : Char) : Bool :=
  if 0x20 ≤ char.toNat && char.toNat < 0x7F then false
  else Case.inRanges hiddenRanges char.toNat

/-- The number of a character between braces. -/
def byNumber (char : Char) : List Char :=
  ['\\', 'u', '\x7b'] ++ Nat.toDigits 16 char.toNat ++ ['\x7d']

/-- The written form of one character. -/
def escape (char : Char) : List Char :=
  if char = '"' then ['\\', '"']
  else if char = '\\' then ['\\', '\\']
  else if char = '\n' then ['\\', 'n']
  else if char = '\r' then ['\\', 'r']
  else if char = '\t' then ['\\', 't']
  else if char = '\x00' then ['\\', '0']
  else if isHidden char then byNumber char
  else [char]

end RequestHub.Text.Quoted

namespace RequestHub.Text

/-- A text between double quotes. -/
def quoted (text : String) : String :=
  String.ofList ('"' :: text.toList.flatMap Quoted.escape ++ ['"'])

end RequestHub.Text
