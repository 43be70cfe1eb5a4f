import RequestHub.Decimal.Power
import RequestHub.Decimal.Reading
import RequestHub.Http.Headers
import RequestHub.Text.Blank
import RequestHub.Text.Split

/-!
# Trace context

A call from one service to another carries the identifiers of its trace and of the span that made it,
so that the spans of both services belong to one trace.  `Span.extract?` finds them in header fields
and `Span.inject` writes them there; a span started under a parent keeps the parent's trace, its
decision on sampling and its state, and a span without a parent begins a trace of its own.
-/

namespace RequestHub

/-- What one service tells another of a span. -/
structure Span where
  /-- The number of the trace, of 128 bits. -/
  trace : Nat
  /-- The number of the span, of 64 bits. -/
  id : Nat
  sampled : Bool
  /-- What vendors have added, in order. -/
  state : List (String × String)
deriving DecidableEq, Inhabited, Repr

namespace Span

/-- Whether a span has a trace and a number. -/
def isValid (span : Span) : Bool :=
  span.trace ≠ 0 && span.id ≠ 0

/-- A number in hexadecimal digits, at least `width` of them. -/
def hexText (width value : Nat) : String :=
  let digits := Nat.toDigits 16 value
  String.ofList (List.replicate (width - digits.length) '0' ++ digits)

/-- The written form of the number of a trace. -/
def traceText (span : Span) : String :=
  hexText 32 span.trace

/-! ## The two header fields -/

/-- The field with the identifiers. -/
def parentField : String := "traceparent"

/-- The field with the state. -/
def stateField : String := "tracestate"

/-- The greatest version of the format that is read. -/
def greatestVersion : Nat := 254

/-- The pieces between separators, without an empty last one. -/
def pieces (separator : Char) (text : List Char) : List (List Char) :=
  let all := Text.cut separator text
  if all.getLast? = some [] then all.dropLast else all

/-- A number of hexadecimal digits below a bound, with or without a plus sign. -/
def hex? (bound : Nat) (text : List Char) : Option Nat :=
  let digits := if text.head? = some '+' then text.drop 1 else text
  (Decimal.natural? 16 digits).filter (· < bound)

/-- A number whose digits are small letters. -/
def smallHex? (bound : Nat) (text : List Char) : Option Nat :=
  if text.any Char.isUpper then none else hex? bound text

/-- The trace, the span and the decision on sampling that a text spells. -/
def ofParent? (text : String) : Option Span :=
  match pieces '-' (Text.trimBy Text.isBlank text.toList) with
  | version :: trace :: id :: flags :: others => do
      let version ← hex? 256 version
      if greatestVersion < version || (version = 0 && !others.isEmpty) then none
      else do
        let trace ← smallHex? (twoTo 128) trace
        let id ← smallHex? (twoTo 64) id
        let flags ← hex? 256 flags
        if version = 0 && 2 < flags then none
        else
          let span : Span := ⟨trace, id, flags % 2 = 1, []⟩
          if span.isValid then return span else none
  | _ => none

/-- Whether a character may stand anywhere in a key of the state. -/
def isKeyChar (char : Char) : Bool :=
  char.isLower || char.isDigit || char = '_' || char = '-' || char = '*' || char = '/' || char = '@'

/-- Whether a character may begin a key of the state, or its vendor. -/
def isKeyStart (char : Char) : Bool :=
  char.isLower || char.isDigit

/-- Whether a text is a key of the state: the vendor behind the sign has at most thirteen letters. -/
def isStateKey (key : List Char) : Bool :=
  key.length ≤ 256 && key.all isKeyChar && (key.head?.map isKeyStart).getD true &&
    match Text.cut '@' key with
    | [_] => true
    | [_, vendor] => vendor.length ≤ 13 && (vendor.head?.map isKeyStart).getD true
    | _ => false

/-- Whether a text is a value of the state. -/
def isStateValue (value : List Char) : Bool :=
  (String.ofList value).utf8ByteSize ≤ 256 && !value.contains ',' && !value.contains '='

/-- A pair of the state. -/
def statePair? (text : List Char) : Option (String × String) :=
  match Text.cutOnce '=' text with
  | (_, none) => none
  | (key, some rest) =>
      let value := rest.dropWhile (· = '=')
      if isStateKey key && isStateValue value then
        some (String.ofList key, String.ofList value)
      else none

/-- The state that a text spells; a text that spells none counts as an empty one. -/
def stateOf (text : String) : List (String × String) :=
  ((pieces ',' text.toList).mapM statePair?).getD []

/-- The span that header fields tell of. -/
def extract? (headers : Headers) : Option Span := do
  let span ← ofParent? ((headers.text? parentField).getD "")
  return { span with state := ((headers.text? stateField).map stateOf).getD [] }

/-- The written form of the identifiers. -/
def parentText (span : Span) : String :=
  "00-" ++ span.traceText ++ "-" ++ hexText 16 span.id ++ (if span.sampled then "-01" else "-00")

/-- The written form of the state. -/
def stateText (span : Span) : String :=
  String.intercalate "," (span.state.map fun (key, value) => key ++ "=" ++ value)

/-- The header fields with a text set under a name; a pair that cannot be a field is left out. -/
def setField (headers : Headers) (name text : String) : Headers :=
  match Headers.name? name with
  | some name =>
      let value := Bytes.ofString text
      if Headers.isValue value then headers.set name value else headers
  | none => headers

/-- Header fields that tell of a span; an invalid one is not told. -/
def inject (span : Span) (headers : Headers) : Headers :=
  if span.isValid then
    setField (setField headers parentField span.parentText) stateField span.stateText
  else headers

end Span

/-- Which of the traces that begin here are sampled. -/
inductive Sampling where
  | always
  | never
  /-- The traces whose number is small enough for the ratio. -/
  | ratio (share : Real64)
deriving DecidableEq, Inhabited, Repr

namespace Sampling

/-- The sampling for a share of the traces: all from one on, none at zero and below. -/
def ofShare (share : Real64) : Sampling :=
  if share.isOneOrMore then .always
  else if share.isPositive || share.isUndefined then .ratio share
  else .never

/-- Whether a trace that begins here is sampled. -/
def takes : Sampling → (trace : Nat) → Bool
  | .always, _ => true
  | .never, _ => false
  | .ratio share, trace =>
      share.isPositive && trace % twoTo 64 / 2 < share.floorScaled 63

/-- A span under a parent or, without one, of a trace of its own with the given number. -/
def start (sampling : Sampling) (parent : Option Span) (trace id : Nat) : Span :=
  match parent.filter Span.isValid with
  | some parent => { parent with id := id }
  | none => { trace, id, sampled := sampling.takes trace, state := [] }

end Sampling

end RequestHub
