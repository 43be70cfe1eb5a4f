import RequestHub.Decimal.Power
import RequestHub.Http.Method
import RequestHub.Names
import RequestHub.Text.Utf8

/-!
# Header fields

Header fields and trailers bind names to values.  Names are tokens and count without regard to case,
so they are kept in small letters; one name may have several values, which keep their order.  Values
are bytes, and only some of them are text.
-/

namespace RequestHub

/-- The values of header fields, by the small form of their names. -/
abbrev Headers := Names (List Bytes)

namespace Headers

/-- The small form of a field name, if a text can be one. -/
def name? (text : String) : Option String :=
  if !text.isEmpty && text.utf8ByteSize < twoTo 16 && text.toList.all Method.isTokenChar then
    some (Text.lowerAscii text)
  else none

/-- Whether a byte may stand in a field value. -/
def isValueByte (byte : UInt8) : Bool :=
  (0x20 ≤ byte && byte != 0x7F) || byte == 0x09

/-- Whether bytes can be a field value. -/
def isValue (bytes : Bytes) : Bool :=
  bytes.all isValueByte

/-- The values under a name, in order. -/
def values (headers : Headers) (name : String) : List Bytes :=
  (headers.find? name).getD []

/-- The first value under a name. -/
def first? (headers : Headers) (name : String) : Option Bytes :=
  (headers.values name).head?

/-- The first value under a name, if it is text of the visible ASCII range. -/
def text? (headers : Headers) (name : String) : Option String :=
  (headers.first? name).bind Bytes.visibleText?

/-- The fields with one more value behind those of its name. -/
def append (headers : Headers) (name : String) (value : Bytes) : Headers :=
  Names.insert name (headers.values name ++ [value]) headers

/-- The fields with a value in the place of all those of its name. -/
def set (headers : Headers) (name : String) (value : Bytes) : Headers :=
  Names.insert name [value] headers

@[simp]
theorem values_nil (name : String) : values [] name = [] := rfl

@[simp]
theorem values_append (headers : Headers) (name : String) (value : Bytes) (other : String) :
    (headers.append name value).values other =
      headers.values other ++ if name = other then [value] else [] := by
  by_cases same : name = other
  · simp [values, append, same]
  · simp [values, append, same, Ne.symm same]

@[simp]
theorem values_set (headers : Headers) (name : String) (value : Bytes) (other : String) :
    (headers.set name value).values other =
      if name = other then [value] else headers.values other := by
  by_cases same : name = other
  · simp [values, set, same]
  · simp [values, set, same, Ne.symm same]

/-- The pairs of names and values. -/
def pairs (headers : Headers) : List (String × Bytes) :=
  headers.flatMap fun (name, values) => values.map fun value => (name, value)

/-- Why a list of pairs is not a list of header fields. -/
inductive Refusal where
  | name
  | value
deriving DecidableEq, Repr

/-- The fields of a list of pairs, added in order. -/
def ofPairs (pairs : List (String × Bytes)) : Except Refusal Headers :=
  pairs.foldlM
    (fun headers (name, value) =>
      match name? name with
      | none => .error .name
      | some name => if isValue value then .ok (headers.append name value) else .error .value)
    ([] : Headers)

end Headers

end RequestHub
