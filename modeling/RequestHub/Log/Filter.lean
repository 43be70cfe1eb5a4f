import RequestHub.Decimal.Reading
import RequestHub.Log.Pattern
import RequestHub.Text.Blank
import RequestHub.Text.Case
import RequestHub.Text.Split
import RequestHub.Text.WordTable

/-!
# Filters of the log

What is logged is chosen by a filter, a list of directives between commas.  A directive names a level,
or a part of the program, perhaps a span with some of its fields between brackets, and perhaps a level
behind an equals sign.  Empty directives are passed over.
-/

namespace RequestHub.Log.Filter

/-- The names of the levels, and of none. -/
def levelNames : List String :=
  ["off", "error", "warn", "info", "debug", "trace"]

/-- Whether a text is a level: its number, or its name in capital or small letters. -/
def isLevel (text : List Char) : Bool :=
  let digits := if text.head? = some '+' then text.drop 1 else text
  match Decimal.natural? 10 digits with
  | some number => number < levelNames.length
  | none => levelNames.contains (String.ofList (Decimal.small text))

/-- Whether a level may be left out or is one. -/
def isLevelOrVoid (text : List Char) : Bool :=
  text.isEmpty || isLevel text

/-- Whether a text is a field, perhaps with a number or a pattern that its value must fit. -/
def isField (text : List Char) : Bool :=
  !text.isEmpty &&
    match Text.cut '=' text with
    | _ :: value :: _ => (Decimal.real? value).isSome || isPattern value
    | _ => true

/-- Whether nothing, or a level behind an equals sign, follows a span. -/
def endsSpan : List Char → Bool
  | [] => true
  | '=' :: level => isLevelOrVoid level
  | _ => false

/-- Whether a text goes on as a span whose bracket was opened. -/
def isSpan (text : List Char) : Bool :=
  match text.dropWhile fun char => char ≠ ']' && char ≠ '{' with
  | ']' :: rest => endsSpan rest
  | '{' :: rest =>
      match Text.cutOnce '}' rest with
      | (field, some (']' :: rest)) => isField field && endsSpan rest
      | _ => false
  | _ => false

/-- Whether a character may begin the name of a part of the program, or a level. -/
def isStart (char : Char) : Bool :=
  ['-', ':', '_'].contains char || Text.isWord char

/-- Whether a text without blanks at its ends is a directive. -/
def isTrimmed : List Char → Bool
  | '[' :: rest => isSpan rest
  | char :: rest =>
      isStart char &&
        match rest.dropWhile fun char => char ≠ '=' && char ≠ '[' with
        | '=' :: level => isLevelOrVoid level
        | '[' :: rest => isSpan rest
        | _ => true
  | [] => false

/-- Whether a directive that is a span or a name ends in a level. -/
def hasLevel (text : List Char) : Bool :=
  let behindSpan := (text.reverse.takeWhile (· ≠ ']')).reverse
  behindSpan.contains '='

/-- Whether a text is a directive; blanks may stand around it only if it has no level of its own. -/
def isDirective (text : List Char) : Bool :=
  let trimmed := Text.trimBy Text.isBlank text
  isTrimmed trimmed && (trimmed = text || !hasLevel trimmed)

end RequestHub.Log.Filter

namespace RequestHub.Log

/-- Whether a text is a filter. -/
def isFilter (text : String) : Bool :=
  (Text.cut ',' text.toList).all fun directive =>
    directive.isEmpty || Filter.isDirective directive

end RequestHub.Log
