import RequestHub.Text.CaseTable

/-!
# Letter case

Routing keys, file extensions and setting values are compared without regard to case, by writing
them in small letters.  Every letter is replaced through the tables of `CaseTable`, with two
exceptions that the writing systems ask for: the dotted capital I becomes two characters, and a
capital sigma at the end of a word becomes the final small sigma.
-/

namespace RequestHub.Text.Case

/-- Whether a number lies in one of the ranges. -/
def inRanges (ranges : List (Nat × Nat)) (number : Nat) : Bool :=
  ranges.any fun range => range.1 ≤ number && number ≤ range.2

/-- Whether a character is a letter that has a case. -/
def isCased (char : Char) : Bool :=
  if char.toNat < 128 then char.isAlpha else inRanges casedRanges char.toNat

/-- Whether a character stands inside or beside a word without ending it. -/
def isIgnorable (char : Char) : Bool :=
  inRanges ignorableRanges char.toNat

/-- The image of a letter under the first run that holds it, or the letter itself. -/
def mapThrough (runs : List Run) (char : Char) : Char :=
  match runs.findSome? (·.image? char.toNat) with
  | some image => Char.ofNat image
  | none => char

/-- The small form of one character, without regard to its neighbours. -/
def lowerChar (char : Char) : List Char :=
  if char.toNat < 128 then [char.toLower]
  else if char = 'İ' then ['i', '\u0307']
  else [mapThrough lowerRuns char]

/-- Whether the first character that is not ignorable has a case. -/
def meetsCased (chars : List Char) : Bool :=
  match chars.dropWhile isIgnorable with
  | char :: _ => isCased char
  | [] => false

/-- The small forms of a sequence; `before` holds the characters in front of it, nearest first. -/
def lowerAfter (before : List Char) : List Char → List Char
  | [] => []
  | char :: after =>
      let image :=
        if char = 'Σ' then
          if meetsCased before && !meetsCased after then ['ς'] else ['σ']
        else lowerChar char
      image ++ lowerAfter (char :: before) after

/-- The capital form of one character. -/
def upperChar (char : Char) : List Char :=
  if char.toNat < 128 then [char.toUpper]
  else
    match upperSequences.lookup char.toNat with
    | some images => images.map Char.ofNat
    | none => [mapThrough upperRuns char]

end RequestHub.Text.Case

namespace RequestHub.Text

/-- A text in small letters. -/
def lower (text : String) : String :=
  String.ofList (Case.lowerAfter [] text.toList)

/-- A text in capital letters. -/
def upper (text : String) : String :=
  String.ofList (text.toList.flatMap Case.upperChar)

/-- A text whose letters of the ASCII range are small. -/
def lowerAscii (text : String) : String :=
  String.ofList (text.toList.map Char.toLower)

/-- Whether two texts differ at most in the case of letters of the ASCII range. -/
def sameIgnoringAsciiCase (left right : String) : Bool :=
  lowerAscii left == lowerAscii right

end RequestHub.Text
