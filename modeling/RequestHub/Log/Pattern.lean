/-!
# Patterns of field values

A directive of the log may ask that the value of a field fits a pattern: a regular expression without
counted repetitions.  `isPattern` tells whether a text is one: brackets are balanced, every repetition
has something to repeat, and only known characters stand behind a backslash.
-/

namespace RequestHub.Log.Pattern

/-- Whether a character may stand behind a backslash. -/
def isEscapable (char : Char) : Bool :=
  "dDwWsSnrtfvaAz".toList.contains char ||
    (' ' < char && char < '\x7F' && !char.isAlphanum && char ≠ '<' && char ≠ '>')

/-- What follows a class of characters whose opening bracket was read. -/
def afterClass (start : Bool) : (depth : Nat) → List Char → Option (List Char)
  | _, [] => none
  | _, ['\\'] => none
  | depth, '\\' :: char :: rest => if isEscapable char then afterClass false depth rest else none
  | depth, '^' :: rest => afterClass start depth rest
  | depth, ']' :: rest =>
      if start then afterClass false depth rest
      else
        match depth with
        | 0 => some rest
        | depth + 1 => afterClass false depth rest
  | depth, '[' :: rest => afterClass true (depth + 1) rest
  | depth, _ :: rest => afterClass false depth rest

/-- What follows the opening of a group; `none` if the group is none. -/
def afterOpening : List Char → Option (List Char)
  | '?' :: 'P' :: '<' :: rest => afterName rest
  | '?' :: '<' :: rest => afterName rest
  | '?' :: rest =>
      match rest.dropWhile "imsxuUR-".toList.contains with
      | ':' :: rest => some rest
      | ')' :: rest => some (')' :: rest)
      | _ => none
  | rest => some rest
where
  /-- What follows the name of a group. -/
  afterName (chars : List Char) : Option (List Char) :=
    let name := chars.takeWhile fun char => char.isAlphanum || char = '_'
    match name, chars.drop name.length with
    | first :: _, '>' :: rest => if first.isDigit then none else some rest
    | _, _ => none

/--
Whether the rest of a text completes a pattern in which `depth` groups are open.  `operand` tells
whether there is something to repeat, and `fuel` exceeds the length of the rest.
-/
def completes (operand : Bool) (depth : Nat) : (fuel : Nat) → List Char → Bool
  | 0, _ => false
  | _, [] => depth = 0
  | fuel + 1, char :: rest =>
      if char = '\\' then
        match rest with
        | escaped :: rest => isEscapable escaped && completes true depth fuel rest
        | [] => false
      else if char = '[' then
        match afterClass true 0 rest with
        | some rest => completes true depth fuel rest
        | none => false
      else if char = '(' then
        match afterOpening rest with
        | some rest => completes false (depth + 1) fuel rest
        | none => false
      else if char = ')' then 0 < depth && completes true (depth - 1) fuel rest
      else if char = '|' then completes false depth fuel rest
      else if char = '*' || char = '+' || char = '?' then operand && completes true depth fuel rest
      else char ≠ '{' && completes true depth fuel rest

end RequestHub.Log.Pattern

namespace RequestHub.Log

/-- Whether a text is a pattern. -/
def isPattern (text : List Char) : Bool :=
  Pattern.completes false 0 (text.length + 1) text

end RequestHub.Log
