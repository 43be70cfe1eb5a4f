import RequestHub.Names
import RequestHub.Toml.Quoted
import RequestHub.Toml.Scalar

/-!
# TOML statements

A text is a sequence of statements, one a line: the binding of a key to a value, the header of a table,
or the header of a further table of an array.  A key is one name or several between points.  Arrays
may stretch over lines, tables in braces may not, and the two are nested at most `greatestDepth` deep.
-/

namespace RequestHub.Toml

open Scan

/-- The parts of a key. -/
abbrev Key := List String

/-- A statement; the table in braces is still the list of its bindings. -/
inductive Term where
  | plain (value : Value)
  | array (items : List Term)
  | braces (bindings : List (Key × Term))
deriving Inhabited, Repr

/-- A line of a text. -/
inductive Statement where
  | binding (key : Key) (term : Term)
  | header (key : Key)
  | further (key : Key)
deriving Inhabited, Repr

/-! ## Keys -/

namespace Key

/-- How many parts a key may have. -/
def greatestLength : Nat := 79

/-- Whether a character may stand in a name without quotes. -/
def isBare (char : Char) : Bool :=
  char.isAlphanum || char = '_' || char = '-'

/-- One part of a key, with the blanks around it. -/
def part : Scan String := do
  skipSpaces
  let name ←
    match ← peek? with
    | some '"' | some '\'' => Quoted.short
    | _ => String.ofList <$> takeSome isBare
  skipSpaces
  return name

/-- The parts of a key behind the first; `fuel` exceeds their number. -/
def moreParts : (fuel : Nat) → Scan (List String)
  | 0 => failure
  | fuel + 1 => do
      if ← takes ['.'] then return (← part) :: (← moreParts fuel)
      else return []

/-- A key. -/
def scan : Scan Key := do
  let parts := (← part) :: (← moreParts (← bound))
  if parts.length ≤ greatestLength then return parts else failure

end Key

/-! ## Values -/

namespace Term

/-- How deep arrays and tables in braces may be nested. -/
def greatestDepth : Nat := 79

/-- The items of an array behind its bracket; `fuel` exceeds their number. -/
def items (element : Scan Term) : (fuel : Nat) → Scan (List Term)
  | 0 => failure
  | fuel + 1 => do
      skipLines (← bound)
      if ← takes [']'] then return []
      else do
        let item ← element
        skipLines (← bound)
        if ← takes [','] then return item :: (← items element fuel)
        else do
          take ']'
          return [item]

/-- A key and its value. -/
def binding (element : Scan Term) : Scan (Key × Term) := do
  let key ← Key.scan
  take '='
  skipSpaces
  return (key, ← element)

/-- The bindings between braces behind the first; `fuel` exceeds their number. -/
def moreBindings (element : Scan Term) : (fuel : Nat) → Scan (List (Key × Term))
  | 0 => failure
  | fuel + 1 => do
      skipSpaces
      if ← takes [','] then return (← binding element) :: (← moreBindings element fuel)
      else do
        take '}'
        return []

/-- The bindings between braces behind the opening one. -/
def bindings (element : Scan Term) : Scan (List (Key × Term)) := do
  skipSpaces
  if ← takes ['}'] then return []
  else return (← binding element) :: (← moreBindings element (← bound))

/-- An array or a table in braces whose elements a scan finds. -/
def collection (element : Scan Term) : Scan Term := do
  if ← takes ['['] then return .array (← items element (← bound))
  else do
    take '{'
    return .braces (← bindings element)

/-- A value that is neither an array nor a table. -/
def scalar : Scan Value := do
  match ← peek? with
  | some '"' | some '\'' => return .string (← Quoted.any)
  | some 't' => do
      Scalar.word "true".toList
      return .bool true
  | some 'f' => do
      Scalar.word "false".toList
      return .bool false
  | _ => Scalar.momentOrNumber

/-- A value in which collections are nested at most `depth` deep. -/
def scan : (depth : Nat) → Scan Term
  | 0 => Term.plain <$> scalar
  | depth + 1 => do
      match ← peek? with
      | some '[' | some '{' => collection (scan depth)
      | _ => Term.plain <$> scalar

end Term

/-! ## Statements -/

namespace Statement

/-- A statement, up to the end of its line. -/
def one : Scan Statement := do
  let statement ←
    if ← takes ['['] then
      if ← takes ['['] then do
        let key ← Key.scan
        take ']'
        take ']'
        pure (Statement.further key)
      else do
        let key ← Key.scan
        take ']'
        pure (Statement.header key)
    else do
      let (key, term) ← Term.binding (Term.scan Term.greatestDepth)
      pure (Statement.binding key term)
  endLine
  return statement

/-- The statements of a text; `fuel` exceeds the number of its lines. -/
def all : (fuel : Nat) → Scan (List Statement)
  | 0 => failure
  | fuel + 1 => do
      skipSpaces
      match ← peek? with
      | none => return []
      | some '#' | some '\n' | some '\r' => do
          endLine
          all fuel
      | _ => return (← one) :: (← all fuel)

/-- The statements of a text, before which a byte order mark may stand. -/
def ofString? (text : String) : Option (List Statement) :=
  let chars :=
    match text.toList with
    | '\uFEFF' :: rest => rest
    | chars => chars
  whole? (all (chars.length + 1)) chars

end Statement

end RequestHub.Toml
