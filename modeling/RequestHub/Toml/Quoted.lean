import RequestHub.Toml.Scan

/-!
# Quoted texts of TOML

A text stands between double quotes, with escapes, or between single quotes, as it is.  Three quotes
open a text of several lines: a line end right behind them is not part of it, up to two more quotes
may stand in front of the three that close it, and between double quotes a backslash at the end of a
line joins what follows the blanks.
-/

namespace RequestHub.Toml.Quoted

open Scan

/-- The value of a hexadecimal digit. -/
def hexValue? (char : Char) : Option Nat :=
  if char.isDigit then some (char.toNat - '0'.toNat)
  else if 'a' ≤ char && char ≤ 'f' then some (char.toNat - 'a'.toNat + 10)
  else if 'A' ≤ char && char ≤ 'F' then some (char.toNat - 'A'.toNat + 10)
  else none

/-- The character whose number some hexadecimal digits spell. -/
def charOf? (digits : List Char) : Option Char := do
  let number ← digits.foldlM (fun value digit => return value * 16 + (← hexValue? digit)) 0
  if number.isValidChar then return Char.ofNat number else none

/-- The character that a letter behind a backslash stands for. -/
def escaped? (char : Char) : Option Char :=
  [('b', '\x08'), ('t', '\t'), ('n', '\n'), ('f', '\x0C'), ('r', '\r'), ('"', '"'),
    ('\\', '\\')].lookup char

/-- A character in front of what a scan finds. -/
def ahead (char : Option Char) (found : Option (List Char × List Char)) :
    Option (List Char × List Char) := do
  let char ← char
  let (chars, rest) ← found
  return (char :: chars, rest)

/-- What stands up to a double quote. -/
def basic : List Char → Option (List Char × List Char)
  | '"' :: rest => some ([], rest)
  | '\\' :: 'u' :: a :: b :: c :: d :: rest => ahead (charOf? [a, b, c, d]) (basic rest)
  | '\\' :: 'U' :: a :: b :: c :: d :: e :: f :: g :: h :: rest =>
      ahead (charOf? [a, b, c, d, e, f, g, h]) (basic rest)
  | '\\' :: char :: rest => ahead (escaped? char) (basic rest)
  | char :: rest => if isPlain char && char ≠ '\\' then ahead (some char) (basic rest) else none
  | [] => none

/-- What stands up to a single quote. -/
def literal : List Char → Option (List Char × List Char)
  | '\'' :: rest => some ([], rest)
  | char :: rest => if isPlain char then ahead (some char) (literal rest) else none
  | [] => none

/-- Whether only blanks stand in front of the end of a line. -/
def endsLine (chars : List Char) : Bool :=
  (afterLine? (chars.dropWhile isSpace)).isSome

/-- What stands up to three double quotes; `joining` while blanks behind a joined line are dropped. -/
def longBasic (joining : Bool) : List Char → Option (List Char × List Char)
  | '"' :: '"' :: '"' :: '"' :: '"' :: rest => some (['"', '"'], rest)
  | '"' :: '"' :: '"' :: '"' :: rest => some (['"'], rest)
  | '"' :: '"' :: '"' :: rest => some ([], rest)
  | '\r' :: '\n' :: rest =>
      if joining then longBasic true rest else ahead (some '\n') (longBasic false rest)
  | '\n' :: rest =>
      if joining then longBasic true rest else ahead (some '\n') (longBasic false rest)
  | '\\' :: 'u' :: a :: b :: c :: d :: rest =>
      ahead (charOf? [a, b, c, d]) (longBasic false rest)
  | '\\' :: 'U' :: a :: b :: c :: d :: e :: f :: g :: h :: rest =>
      ahead (charOf? [a, b, c, d, e, f, g, h]) (longBasic false rest)
  | '\\' :: char :: rest =>
      if endsLine (char :: rest) then longBasic true rest
      else ahead (escaped? char) (longBasic false rest)
  | char :: rest =>
      if joining && isSpace char then longBasic true rest
      else if isPlain char && char ≠ '\\' then ahead (some char) (longBasic false rest)
      else none
  | [] => none

/-- What stands up to three single quotes. -/
def longLiteral : List Char → Option (List Char × List Char)
  | '\'' :: '\'' :: '\'' :: '\'' :: '\'' :: rest => some (['\'', '\''], rest)
  | '\'' :: '\'' :: '\'' :: '\'' :: rest => some (['\''], rest)
  | '\'' :: '\'' :: '\'' :: rest => some ([], rest)
  | '\r' :: '\n' :: rest => ahead (some '\n') (longLiteral rest)
  | char :: rest =>
      if isPlain char || char = '\n' then ahead (some char) (longLiteral rest) else none
  | [] => none

/-- A text without the end of a line at its front. -/
def dropLine (chars : List Char) : List Char :=
  (afterLine? chars).getD chars

/-- A quoted text of one line. -/
def short : Scan String := fun chars =>
  let found :=
    match chars with
    | '"' :: rest => basic rest
    | '\'' :: rest => literal rest
    | _ => none
  found.map fun (chars, rest) => (String.ofList chars, rest)

/-- A quoted text of one line or of several. -/
def any : Scan String := fun chars =>
  let long (found : Option (List Char × List Char)) : Option (String × List Char) :=
    found.map fun (chars, rest) => (String.ofList chars, rest)
  match chars with
  | '"' :: '"' :: '"' :: rest => long (longBasic false (dropLine rest))
  | '\'' :: '\'' :: '\'' :: rest => long (longLiteral (dropLine rest))
  | chars => short chars

end RequestHub.Toml.Quoted
