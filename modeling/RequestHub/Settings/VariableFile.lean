import RequestHub.Settings.Variable
import RequestHub.Text.Blank
import RequestHub.Text.Utf8
import RequestHub.Text.WordTable

/-!
# Files of variables

A file can add variables to an environment, one a line, unless the environment has them already.  A
line that leaves a quote open goes on in the next one.  Values may be quoted, may hold escapes, and may
refer to variables by a dollar sign.  The first line that is not understood ends the reading; what the
lines before it have added stays.
-/

namespace RequestHub.VariableFile

/-! ## Lines -/

/-- Where in a line the reading is. -/
inductive Mark where
  | plain
  | blank
  | escaped
  | single
  | singleEscaped
  | double
  | doubleEscaped
deriving DecidableEq, Repr

namespace Mark

/-- The mark of a character outside of quotes. -/
def opening (char : Char) : Mark :=
  if char = '\\' then escaped
  else if char = '"' then double
  else if char = '\'' then single
  else plain

/-- The mark behind a character. -/
def next (mark : Mark) (char : Char) : Mark :=
  match mark with
  | .plain =>
      if Text.isBlank char && char ≠ '\n' && char ≠ '\r' then blank else opening char
  | .blank => opening char
  | .escaped => plain
  | .single => if char = '\\' then singleEscaped else if char = '\'' then plain else single
  | .singleEscaped => single
  | .double => if char = '\\' then doubleEscaped else if char = '"' then plain else double
  | .doubleEscaped => double

end Mark

/-- The mark at the end of a line, and what stands in front of its comment if it has one. -/
def scan (mark : Mark) : List Char → Mark × Option (List Char)
  | [] => (mark, none)
  | char :: rest =>
      if mark = .blank && char = '#' then (mark, some [])
      else
        let (mark, front) := scan (mark.next char) rest
        (mark, front.map (char :: ·))

/-- A line without its end. -/
def dropEnd (line : List Char) : List Char :=
  match line.reverse with
  | '\n' :: '\r' :: rest => rest.reverse
  | '\n' :: rest => rest.reverse
  | _ => line

/--
The lines of a file with those joined that quotes join; `front` holds what the next one goes on from.
A line that never ends, or that is no text, is left out with all that follows it.
-/
def join (mark : Mark) (front : List Char) : List (Option (List Char)) → List (List Char)
  | [] => []
  | none :: _ => []
  | some line :: lines =>
      let whole := front ++ line
      if (whole.dropWhile Text.isBlank).head? = some '#' then join .plain [] lines
      else
        match scan mark line with
        | (_, some kept) => (front ++ kept) :: join .plain [] lines
        | (.plain, none) => dropEnd whole :: join .plain [] lines
        | (mark, none) => join mark whole lines

/-- The bytes of each line with its end. -/
def cutLines : Bytes → List Bytes
  | [] => []
  | byte :: rest =>
      if byte = 0x0A then [byte] :: cutLines rest
      else
        match cutLines rest with
        | [] => [[byte]]
        | line :: lines => (byte :: line) :: lines

/-- The lines of a file, before which a byte order mark may stand. -/
def lines (content : Bytes) : List (List Char) :=
  let content :=
    match content with
    | 0xEF :: 0xBB :: 0xBF :: rest => rest
    | content => content
  join .plain [] ((cutLines content).map fun line => (Bytes.decode? line).map String.toList)

/-! ## Values -/

/-- How a name behind a dollar sign is being read. -/
inductive Reference where
  | bare (name : List Char)
  | braced (name : List Char)
deriving DecidableEq, Repr

/-- How far a value has been read; texts are kept in reverse. -/
structure Reading where
  output : List Char := []
  single : Bool := false
  double : Bool := false
  escaped : Bool := false
  reference : Option Reference := none
deriving DecidableEq, Repr

namespace Reading

/-- The reading with one more character. -/
def put (reading : Reading) (char : Char) : Reading :=
  { reading with output := char :: reading.output }

/-- The reading with the value of the variable that was referred to. -/
def resolve (reading : Reading) (value : String → String) (name : List Char) : Reading :=
  { reading with
    output := (value (String.ofList name.reverse)).toList.reverse ++ reading.output
    reference := none }

/-- What a letter behind a backslash stands for. -/
def escape? (char : Char) : Option Char :=
  if char = 'n' then some '\n'
  else if ['\\', '\'', '"', '$', ' '].contains char then some char
  else none

/-- The reading behind a character while a name is being read. -/
def refer (reading : Reading) (value : String → String) (char : Char) : Reference → Reading
  | .bare name =>
      if Text.isWord char then { reading with reference := some (.bare (char :: name)) }
      else if char = '\x7b' && name.isEmpty then
        { reading with reference := some (.braced []) }
      else
        let reading := reading.resolve value name
        if char = '$' then { reading with reference := some (.bare []) } else reading.put char
  | .braced name =>
      if char = '\x7d' then reading.resolve value name
      else { reading with reference := some (.braced (char :: name)) }

/-- The reading behind a character that neither ends the value nor is escaped. -/
def next (reading : Reading) (value : String → String) (char : Char) : Reading :=
  if reading.single then
    if char = '\'' then { reading with single := false } else reading.put char
  else
    match reading.reference with
    | some reference => reading.refer value char reference
    | none =>
        if char = '$' then { reading with reference := some (.bare []) }
        else if char = '\\' then { reading with escaped := true }
        else if char = '"' then { reading with double := !reading.double }
        else if char = '\'' && !reading.double then { reading with single := true }
        else reading.put char

/-- The value at the end of its text. -/
def finish (reading : Reading) (value : String → String) : Option String :=
  if reading.single || reading.double then none
  else
    match reading.reference with
    | some (.braced _) => none
    | some (.bare name) => some (String.ofList (reading.resolve value name).output.reverse)
    | none => some (String.ofList reading.output.reverse)

/-- Whether a blank ends the value here. -/
def endsAt (reading : Reading) (char : Char) : Bool :=
  !reading.single && !reading.double && reading.reference.isNone && (char = ' ' || char = '\t')

/-- The value that a text spells; behind a blank only a comment may follow. -/
def run (value : String → String) (reading : Reading) : List Char → Option String
  | [] => reading.finish value
  | char :: rest =>
      if reading.escaped then
        match escape? char with
        | some char => run value { reading.put char with escaped := false } rest
        | none => none
      else if reading.endsAt char then
        match rest.dropWhile fun char => char = ' ' || char = '\t' with
        | [] | '#' :: _ => reading.finish value
        | _ => none
      else run value (reading.next value char) rest

end Reading

/-! ## Variables -/

/-- The name at the front of a line, and what follows it behind blanks. -/
def name? (chars : List Char) : Option (String × List Char) :=
  let isStart (char : Char) : Bool := char.isAlpha || char = '_'
  let isPart (char : Char) : Bool := char.isAlphanum || char = '_' || char = '.'
  if chars.head?.any isStart then
    some (String.ofList (chars.takeWhile isPart),
      (chars.dropWhile isPart).dropWhile Text.isBlank)
  else none

/-- The name of a variable and the text of its value; the word `export` may stand in front. -/
def binding? (chars : List Char) : Option (String × List Char) := do
  match ← name? chars with
  | (name, '=' :: rest) => return (name, rest.dropWhile Text.isBlank)
  | ("export", rest) =>
      match ← name? rest with
      | (name, '=' :: rest) => return (name, rest.dropWhile Text.isBlank)
      | _ => none
  | _ => none

/-- The variable that a line sets; `some none` if the line sets none. -/
def setting? (value : String → String) (line : List Char) : Option (Option Variable) := do
  let chars := Text.trimBy Text.isBlank line
  if chars.isEmpty || chars.head? = some '#' then return none
  else do
    let (name, rest) ← binding? chars
    if rest.head? = some '#' then return some ⟨name, ""⟩
    else return some ⟨name, ← Reading.run value {} rest⟩

/-- The value of a variable; one that is not there counts as empty. -/
def valueIn (environment : List Variable) (name : String) : String :=
  ((environment.find? (·.name = name)).map (·.value)).getD ""

/-- The environment with a variable, unless it has it already. -/
def add (environment : List Variable) (added : Variable) : List Variable :=
  if environment.any (·.name = added.name) then environment else environment ++ [added]

/-- The environment with the variables of some lines, up to one that is not understood. -/
def addLines (environment : List Variable) : List (List Char) → List Variable
  | [] => environment
  | line :: lines =>
      match setting? (valueIn environment) line with
      | none => environment
      | some none => addLines environment lines
      | some (some added) => addLines (add environment added) lines

/-- The environment with the variables of a file. -/
def load (content : Bytes) (environment : List Variable) : List Variable :=
  addLines environment (lines content)

end RequestHub.VariableFile
