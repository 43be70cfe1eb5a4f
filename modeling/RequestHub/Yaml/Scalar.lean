import RequestHub.Decimal.Power
import RequestHub.Decimal.Reading
import RequestHub.Json.Basic
import RequestHub.Yaml.Node

/-!
# The meaning of YAML scalars

A plain scalar without a tag means `null`, a truth value or a number if it is spelt like one, and its
own text otherwise; a quoted scalar is always its text.  A tag of the core schema fixes the kind.
Integers may be spelt with a radix; a number that starts with a needless zero is a text.
-/

namespace RequestHub.Yaml

/-- The full form of a tag of the core schema. -/
def coreTag (name : String) : String :=
  "tag:yaml.org,2002:" ++ name

namespace Scalar

/-- Whether a text spells `null`. -/
def isNull (text : String) : Bool :=
  text == "null" || text == "Null" || text == "NULL" || text == "~"

/-- The truth value that a text spells. -/
def bool? (text : String) : Option Bool :=
  if text == "true" || text == "True" || text == "TRUE" then some true
  else if text == "false" || text == "False" || text == "FALSE" then some false
  else none

/-- Whether a text holds digits behind a needless zero. -/
def hasNeedlessZero (text : List Char) : Bool :=
  let digits :=
    match text with
    | '-' :: rest => rest
    | '+' :: rest => rest
    | rest => rest
  match digits with
  | '0' :: next :: rest => (next :: rest).all Char.isDigit
  | _ => false

/-- The radix that a text names, and the digits behind the name. -/
def radix? (text : List Char) : Option (Nat × List Char) :=
  match text with
  | '0' :: 'x' :: digits => some (16, digits)
  | '0' :: 'o' :: digits => some (8, digits)
  | '0' :: 'b' :: digits => some (2, digits)
  | _ => none

/-- The integer that a text spells, of any size. -/
def integer? (text : List Char) : Option Int :=
  let (negative, body) :=
    match text with
    | '-' :: rest => (true, rest)
    | '+' :: rest => (false, rest)
    | rest => (false, rest)
  let magnitude : Option Nat :=
    match radix? body with
    | some (radix, digits) => Decimal.natural? radix digits
    | none => if hasNeedlessZero text then none else Decimal.natural? 10 body
  magnitude.map fun value => if negative then -(value : Int) else (value : Int)

/-- The floating-point number that a text spells. -/
def real? (text : List Char) : Option Real64 :=
  let name := String.ofList text
  if name == ".inf" || name == ".Inf" || name == ".INF" || name == "+.inf" || name == "+.Inf" ||
      name == "+.INF" then some (Real64.infinity false)
  else if name == "-.inf" || name == "-.Inf" || name == "-.INF" then
    some (Real64.infinity true)
  else if name == ".nan" || name == ".NaN" || name == ".NAN" then some Real64.undefined
  else (Decimal.real? text).filter (·.isFinite)

/-- The value of a floating-point number; the numbers that JSON cannot hold become `null`. -/
def ofReal (value : Real64) : Json :=
  if value.isFinite then .number (.real value) else .null

/-- The value of an integer; none that needs more than 64 bits has one. -/
def ofInteger? (value : Int) : Option Json :=
  if Json.Number.holdsInteger value then some (.number (.integer value)) else none

/-- The value of a plain scalar without a tag.  An integer of more than 128 bits is rounded. -/
def ofPlain? (text : String) : Option Json :=
  if text.isEmpty || isNull text then some .null
  else
    match bool? text with
    | some value => some (.bool value)
    | none =>
        match integer? text.toList with
        | some value =>
            if -(twoTo 127) ≤ value && value < twoTo 128 then ofInteger? value
            else some (ofReal (Real64.ofInt value))
        | none =>
            if hasNeedlessZero text.toList then some (.string text)
            else
              match real? text.toList with
              | some value => some (ofReal value)
              | none => some (.string text)

/-- The value of a scalar with a tag of the core schema. -/
def ofTagged? (tag text : String) : Option Json :=
  if tag == coreTag "bool" then (bool? text).map .bool
  else if tag == coreTag "int" then (integer? text.toList).bind ofInteger?
  else if tag == coreTag "float" then (real? text.toList).map ofReal
  else if tag == coreTag "null" then if isNull text then some .null else none
  else some (.string text)

end Scalar

namespace Node

/-- Whether a tag was made up for one document. -/
def isLocalTag (tag : Option String) : Bool :=
  tag.any fun written => written.startsWith "!"

/-- Whether a node is a plain scalar, or a literal one with the given tag of the core schema. -/
def isPlainOr (kind : String) (plain literal : Bool) (tag : Option String) : Bool :=
  plain || (literal && tag == some (coreTag kind))

mutual

/-- The value of a node, if its tags, keys and numbers have one; `depth` bounds the nesting. -/
def toJson? : (depth : Nat) → Node → Option Json
  | _, .void => some .null
  | _, .scalar text plain _ tag =>
      if isLocalTag tag then none
      else
        match tag with
        | some written => Scalar.ofTagged? written text
        | none => if plain then Scalar.ofPlain? text else some (.string text)
  | 0, .sequence _ _ => none
  | depth + 1, .sequence items tag =>
      if isLocalTag tag then none else (itemsToJson? depth items).map .array
  | 0, .mapping _ _ => none
  | depth + 1, .mapping pairs tag =>
      if isLocalTag tag then none else (pairsToJson? depth pairs).map .ofMembers

/-- The values of the items of a sequence. -/
def itemsToJson? : (depth : Nat) → List Node → Option (List Json)
  | _, [] => some []
  | depth, item :: items => do
      return (← toJson? depth item) :: (← itemsToJson? depth items)

/-- The members of a mapping; a key counts by its text. -/
def pairsToJson? : (depth : Nat) → List (Node × Node) → Option (List (String × Json))
  | _, [] => some []
  | depth, (key, value) :: pairs => do
      match key with
      | .scalar text _ _ _ =>
          return (text, ← toJson? depth value) :: (← pairsToJson? depth pairs)
      | _ => none

end

/-- The levels of nesting that a document may have. -/
def greatestDepth : Nat := 128

end Node

end RequestHub.Yaml
