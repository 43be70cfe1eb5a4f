import RequestHub.Json.Printer
import RequestHub.Text.Quoted

/-!
# What can be wrong with a JSON document

A text may be malformed, and a well-formed value may not be what its reader expects.  Both causes
are data here, and `Fault.message` is the only place that puts them into words.  A fault found in a
text knows its position; one found in a value does not.
-/

namespace RequestHub.Json

/-- The ways in which a text is not JSON. -/
inductive Malformed where
  | listEnds
  | objectEnds
  | stringEnds
  | valueEnds
  | colonMissing
  | listCommaOrEndMissing
  | objectCommaOrEndMissing
  | wordMisspelt
  | valueMissing
  | escapeInvalid
  | numberInvalid
  | numberOutOfRange
  | codePointInvalid
  | controlCharacter
  | keyNotString
  | surrogateAlone
  | commaTrailing
  | charactersTrailing
  | hexEscapeEnds
  | nestingTooDeep
deriving DecidableEq, Repr

/-- The wording of a malformation. -/
def Malformed.message : Malformed → String
  | .listEnds => "EOF while parsing a list"
  | .objectEnds => "EOF while parsing an object"
  | .stringEnds => "EOF while parsing a string"
  | .valueEnds => "EOF while parsing a value"
  | .colonMissing => "expected `:`"
  | .listCommaOrEndMissing => "expected `,` or `]`"
  | .objectCommaOrEndMissing => "expected `,` or `\x7d`"
  | .wordMisspelt => "expected ident"
  | .valueMissing => "expected value"
  | .escapeInvalid => "invalid escape"
  | .numberInvalid => "invalid number"
  | .numberOutOfRange => "number out of range"
  | .codePointInvalid => "invalid unicode code point"
  | .controlCharacter =>
      "control character (\\u0000-\\u001F) found while parsing a string"
  | .keyNotString => "key must be a string"
  | .surrogateAlone => "lone leading surrogate in hex escape"
  | .commaTrailing => "trailing comma"
  | .charactersTrailing => "trailing characters"
  | .hexEscapeEnds => "unexpected end of hex escape"
  | .nestingTooDeep => "recursion limit exceeded"

/-- What a reader found where it expected something else. -/
inductive Seen where
  | null
  | bool (value : Bool)
  | number (value : Number)
  | string (value : String)
  | sequence
  | mapping
deriving DecidableEq, Repr

/-- What a reader sees of a value before it looks inside. -/
def seen : Json → Seen
  | .null => .null
  | .bool value => .bool value
  | .number value => .number value
  | .string value => .string value
  | .array _ => .sequence
  | .object _ => .mapping

/-- The wording of what was found. -/
def Seen.message : Seen → String
  | .null => "null"
  | .bool value => "boolean `" ++ (if value then "true" else "false") ++ "`"
  | .number (.integer value) => "integer `" ++ toString value ++ "`"
  | .number (.real value) => "floating point `" ++ (Number.real value).render ++ "`"
  | .string value => "string " ++ Text.quoted value
  | .sequence => "sequence"
  | .mapping => "map"

/-- The ways in which a value is not what its reader expects. -/
inductive Mismatch where
  | kind (seen : Seen) (expected : String)
  | value (seen : Seen) (expected : String)
  | length (found : Nat) (expected : String)
  | missing (field : String)
  | repeated (field : String)
  | unknownField (name : String) (known : List String)
  | unknownVariant (name : String) (known : List String)
  | refused (message : String)
deriving DecidableEq, Repr

/-- A choice between names, in words. -/
def oneOf (names : List String) : String :=
  match names with
  | [] => ""
  | [only] => "`" ++ only ++ "`"
  | [first, second] => "`" ++ first ++ "` or `" ++ second ++ "`"
  | _ => "one of " ++ String.intercalate ", " (names.map fun name => "`" ++ name ++ "`")

/-- The wording of a mismatch. -/
def Mismatch.message : Mismatch → String
  | .kind seen expected => "invalid type: " ++ seen.message ++ ", expected " ++ expected
  | .value seen expected => "invalid value: " ++ seen.message ++ ", expected " ++ expected
  | .length found expected =>
      "invalid length " ++ toString found ++ ", expected " ++ expected
  | .missing field => "missing field `" ++ field ++ "`"
  | .repeated field => "duplicate field `" ++ field ++ "`"
  | .unknownField name [] => "unknown field `" ++ name ++ "`, there are no fields"
  | .unknownField name known => "unknown field `" ++ name ++ "`, expected " ++ oneOf known
  | .unknownVariant name [] => "unknown variant `" ++ name ++ "`, there are no variants"
  | .unknownVariant name known => "unknown variant `" ++ name ++ "`, expected " ++ oneOf known
  | .refused message => message

/-- A place in a text: its line, counted from one, and the bytes before it on that line. -/
structure Position where
  line : Nat
  column : Nat
deriving DecidableEq, Repr

/-- What is wrong with a document. -/
inductive Cause where
  | malformed (cause : Malformed)
  | mismatch (cause : Mismatch)
deriving DecidableEq, Repr

/-- The wording of a cause. -/
def Cause.message : Cause → String
  | .malformed cause => cause.message
  | .mismatch cause => cause.message

/-- What is wrong with a document, and where if that is known. -/
structure Fault where
  cause : Cause
  position : Option Position
deriving DecidableEq, Repr

/-- The wording of a fault; its position follows the cause. -/
def Fault.message (fault : Fault) : String :=
  match fault.position with
  | none => fault.cause.message
  | some position =>
      fault.cause.message ++ " at line " ++ toString position.line ++ " column " ++
        toString position.column

/-- A mismatch whose place is not known yet. -/
def Mismatch.unplaced (cause : Mismatch) : Fault :=
  ⟨.mismatch cause, none⟩

/-- The fault at the given place, unless it has one already. -/
def Fault.placedAt (fault : Fault) (position : Position) : Fault :=
  match fault.position with
  | some _ => fault
  | none => { fault with position := some position }

end RequestHub.Json
