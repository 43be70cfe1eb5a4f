import RequestHub.Decimal.Power
import RequestHub.Json.Fault
import RequestHub.Text.Utf8

/-!
# Reading JSON text

A `Cursor` holds the bytes not read yet and the position of the first of them.  A `Reader` moves the
cursor; when it fails, the cursor stays where the failure was found, so that whoever called it can
still say where it stopped.  The readers of this module take the parts of a text one by one: blanks,
words, numbers, strings, and the marks between the items of arrays and objects.  `readValue` puts
them together, to a bounded depth of nesting, and `skipValue` passes over a value that nobody wants.
-/

namespace RequestHub.Json

/-- The bytes not read yet, and where the first of them stands. -/
structure Cursor where
  rest : Bytes
  position : Position := ⟨1, 0⟩
deriving DecidableEq, Repr

/-- A step that moves the cursor, and may fail at the place it reached. -/
abbrev Reader (α : Type) := ExceptT Fault (StateM Cursor) α

/-- The position behind one more byte. -/
def Position.after (position : Position) (byte : UInt8) : Position :=
  if byte = 0x0A then ⟨position.line + 1, 0⟩ else ⟨position.line, position.column + 1⟩

namespace Reader

/-- The next byte, which stays unread. -/
def peek : Reader (Option UInt8) := do
  return (← get).rest.head?

/-- Passes over one byte. -/
def advance : Reader Unit :=
  modify fun cursor =>
    match cursor.rest with
    | [] => cursor
    | byte :: rest => ⟨rest, cursor.position.after byte⟩

/-- Takes the next byte, if there is one. -/
def next : Reader (Option UInt8) := do
  let byte ← peek
  advance
  return byte

/-- Fails at the cursor. -/
def failHere {α : Type} (cause : Malformed) : Reader α := do
  throw ⟨.malformed cause, some (← get).position⟩

/-- Fails behind the byte that was looked at. -/
def failAhead {α : Type} (cause : Malformed) : Reader α := do
  let cursor ← get
  let position :=
    match cursor.rest with
    | [] => cursor.position
    | byte :: _ => cursor.position.after byte
  throw ⟨.malformed cause, some position⟩

/-- Places a fault of the reader that has no place yet at the cursor. -/
def placed {α : Type} (reader : Reader α) : Reader α := fun cursor =>
  match reader cursor with
  | (.error fault, reached) => (.error (fault.placedAt reached.position), reached)
  | done => done

/-- Fails because of what a value is; its place is found later. -/
def mismatch {α : Type} (cause : Mismatch) : Reader α :=
  throw cause.unplaced

/-- Runs a reader and keeps its outcome, whatever it is. -/
def outcome {α : Type} (reader : Reader α) : Reader (Except Fault α) := fun cursor =>
  match reader cursor with
  | (result, reached) => (.ok result, reached)

/-- The outcome of a reader, after the end of what it was reading has been passed as well. -/
def thenEnd {α : Type} (reader : Reader α) (ending : Reader Unit) : Reader α := do
  let result ← outcome reader
  let ended ← outcome ending
  match result, ended with
  | .error fault, _ => throw fault
  | .ok _, .error fault => throw fault
  | .ok value, .ok () => return value

end Reader

open Reader

/-! ## Blanks and words -/

/-- Whether a byte may stand between the parts of a text. -/
def isSpace (byte : UInt8) : Bool :=
  byte == 0x20 || byte == 0x0A || byte == 0x09 || byte == 0x0D

/-- The cursor behind the blanks at its front. -/
def pastBlanks (position : Position) : Bytes → Cursor
  | [] => ⟨[], position⟩
  | byte :: rest =>
      if isSpace byte then pastBlanks (position.after byte) rest else ⟨byte :: rest, position⟩

/-- Passes over blanks and looks at the byte behind them. -/
def skipBlanks : Reader (Option UInt8) := do
  modify fun cursor => pastBlanks cursor.position cursor.rest
  peek

/-- Reads the rest of a word whose first letter has been passed. -/
def readWord : List UInt8 → Reader Unit
  | [] => return ()
  | expected :: word => do
      match ← next with
      | none => failHere .valueEnds
      | some byte => if byte = expected then readWord word else failHere .wordMisspelt

/-- The bytes of `ull`. -/
def wordNull : Bytes := [0x75, 0x6C, 0x6C]

/-- The bytes of `rue`. -/
def wordTrue : Bytes := [0x72, 0x75, 0x65]

/-- The bytes of `alse`. -/
def wordFalse : Bytes := [0x61, 0x6C, 0x73, 0x65]

/-! ## Numbers -/

/-- The value of a digit. -/
def digit? (byte : Option UInt8) : Option Nat :=
  match byte with
  | some byte => if 0x30 ≤ byte && byte ≤ 0x39 then some (byte.toNat - 0x30) else none
  | none => none

/-- The greatest number of digits kept exactly. -/
def greatestDigits : Nat := twoTo 64 - 1

/-- The greatest exponent that is read as a number. -/
def greatestExponent : Nat := twoTo 31 - 1

/-- Passes over the digits at the cursor and counts them. -/
def skipDigits : Reader Nat := do
  let cursor ← get
  let digits := cursor.rest.takeWhile fun byte => (digit? (some byte)).isSome
  set (⟨cursor.rest.drop digits.length,
    ⟨cursor.position.line, cursor.position.column + digits.length⟩⟩ : Cursor)
  return digits.length

/-- Adds the digits at the cursor to a number while it stays within `limit`. -/
def addDigits (limit : Nat) (number count : Nat) : Bytes → Nat × Nat
  | [] => (number, count)
  | byte :: rest =>
      match digit? (some byte) with
      | none => (number, count)
      | some digit =>
          if limit < number * 10 + digit then (number, count)
          else addDigits limit (number * 10 + digit) (count + 1) rest

/-- Reads digits into a number while it stays within `limit`, and counts them. -/
def readDigits (limit number : Nat) : Reader (Nat × Nat) := do
  let cursor ← get
  let (number, count) := addDigits limit number 0 cursor.rest
  set (⟨cursor.rest.drop count,
    ⟨cursor.position.line, cursor.position.column + count⟩⟩ : Cursor)
  return (number, count)

/--
Scales digits by a power of ten in machine arithmetic: large powers in steps of 308, the rest by one
multiplication or division.  Nothing is given for a magnitude beyond the range.
-/
def scale (fuel : Nat) (value : Float) (power : Int) : Option Float :=
  match fuel with
  | 0 => some value
  | fuel + 1 =>
      if power.natAbs ≤ 308 then
        let factor := Float.ofScientific 1 false power.natAbs
        if 0 ≤ power then
          let scaled := value * factor
          if scaled.isInf then none else some scaled
        else some (value / factor)
      else if value == 0.0 then some value
      else if 0 ≤ power then none
      else scale fuel (value / Float.ofScientific 1 false 308) (power + 308)

/-- The floating-point number of digits and a power of ten. -/
def readScaled (negative : Bool) (digits : Nat) (power : Int) : Reader Number := do
  let start := (UInt64.ofNat digits).toFloat
  match scale (power.natAbs / 308 + 2) start (min power 4000) with
  | none => failHere .numberOutOfRange
  | some value => return .real (Real64.ofFloat (if negative then -value else value))

/-- Reads the exponent of a number; its mark stands at the cursor. -/
def readExponent (negative : Bool) (digits : Nat) (power : Int) : Reader Number := do
  advance
  let downward ←
    match ← peek with
    | some 0x2B => do advance; pure false
    | some 0x2D => do advance; pure true
    | _ => pure false
  let first ← next
  match digit? first, first with
  | none, none => failHere .valueEnds
  | none, some _ => failHere .numberInvalid
  | some leading, _ => do
      let (exponent, _) ← readDigits greatestExponent leading
      match digit? (← peek) with
      | some _ =>
          advance
          if digits ≠ 0 && !downward then failHere .numberOutOfRange
          else do
            let _ ← skipDigits
            return .real (Real64.signed negative ⟨0⟩)
      | none =>
          readScaled negative digits (if downward then power - exponent else power + exponent)

/-- Whether a byte begins an exponent. -/
def isExponentMark (byte : Option UInt8) : Bool :=
  byte == some 0x65 || byte == some 0x45

/-- Reads the part of a number behind its point, which stands at the cursor. -/
def readFraction (negative : Bool) (digits : Nat) (power : Int) : Reader Number := do
  advance
  let (extended, count) ← readDigits greatestDigits digits
  match digit? (← peek) with
  | some _ =>
      let _ ← skipDigits
      if isExponentMark (← peek) then readExponent negative extended (power - count)
      else readScaled negative extended (power - count)
  | none =>
      if count = 0 then
        match ← peek with
        | some _ => failAhead .numberInvalid
        | none => failAhead .valueEnds
      else if isExponentMark (← peek) then readExponent negative extended (power - count)
      else readScaled negative extended (power - count)

/-- Reads what follows the digits before the point. -/
def readAfterInteger (negative : Bool) (digits : Nat) : Reader Number := do
  match ← peek with
  | some 0x2E => readFraction negative digits 0
  | mark =>
      if isExponentMark mark then readExponent negative digits 0
      else if !negative then return .integer digits
      else if digits = 0 || twoTo 63 < digits then
        return .real (Real64.ofFloat (-(UInt64.ofNat digits).toFloat))
      else return .integer (-digits)

/-- Reads a number whose sign has been passed. -/
def readNumber (negative : Bool) : Reader Number := do
  let first ← next
  match digit? first, first with
  | none, none => failHere .valueEnds
  | none, some _ => failHere .numberInvalid
  | some 0, _ => do
      match digit? (← peek) with
      | some _ => failAhead .numberInvalid
      | none => readAfterInteger negative 0
  | some leading, _ => do
      let (digits, _) ← readDigits greatestDigits leading
      match digit? (← peek) with
      | none => readAfterInteger negative digits
      | some _ =>
          let dropped ← skipDigits
          match ← peek with
          | some 0x2E => readFraction negative digits dropped
          | mark =>
              if isExponentMark mark then readExponent negative digits dropped
              else readScaled negative digits dropped

/-! ## Strings -/

/-- The value of a hexadecimal digit. -/
def hexDigit? (byte : UInt8) : Option Nat :=
  if 0x30 ≤ byte && byte ≤ 0x39 then some (byte.toNat - 0x30)
  else if 0x41 ≤ byte && byte ≤ 0x46 then some (byte.toNat - 0x41 + 10)
  else if 0x61 ≤ byte && byte ≤ 0x66 then some (byte.toNat - 0x61 + 10)
  else none

/-- Reads the four digits of an escape by number. -/
def readHexDigits : Reader Nat := do
  let cursor ← get
  match cursor.rest with
  | first :: second :: third :: fourth :: _ =>
      advance; advance; advance; advance
      match hexDigit? first, hexDigit? second, hexDigit? third, hexDigit? fourth with
      | some a, some b, some c, some d => return a * 4096 + b * 256 + c * 16 + d
      | _, _, _, _ => failHere .escapeInvalid
  | short => do
      for _ in short do advance
      failHere .stringEnds

/-- The next byte of a string, which must not end here. -/
def nextOfString : Reader UInt8 := do
  match ← next with
  | some byte => return byte
  | none => failHere .stringEnds

/-- The byte at the cursor, inside a string that must not end here. -/
def peekOfString : Reader UInt8 := do
  match ← peek with
  | some byte => return byte
  | none => failHere .stringEnds

/-- Reads an escape by number behind its letter; two of them may form one character. -/
def readHexEscape : Reader Bytes := do
  let unit ← readHexDigits
  if 0xDC00 ≤ unit && unit ≤ 0xDFFF then failHere .surrogateAlone
  else if unit < 0xD800 || 0xDBFF < unit then return String.utf8EncodeChar (Char.ofNat unit)
  else do
    if (← peekOfString) = 0x5C then advance
    else do
      advance
      failHere .hexEscapeEnds
    if (← peekOfString) = 0x75 then advance
    else do
      advance
      failHere .hexEscapeEnds
    let second ← readHexDigits
    if second < 0xDC00 || 0xDFFF < second then failHere .surrogateAlone
    else
      return String.utf8EncodeChar
        (Char.ofNat ((unit - 0xD800) * 1024 + (second - 0xDC00) + 0x10000))

/-- The byte that an escape by letter stands for. -/
def escaped? (letter : UInt8) : Option UInt8 :=
  if letter = 0x22 || letter = 0x5C || letter = 0x2F then some letter
  else if letter = 0x62 then some 0x08
  else if letter = 0x66 then some 0x0C
  else if letter = 0x6E then some 0x0A
  else if letter = 0x72 then some 0x0D
  else if letter = 0x74 then some 0x09
  else none

/-- Reads an escape behind its backslash. -/
def readEscape : Reader Bytes := do
  let letter ← nextOfString
  if letter = 0x75 then readHexEscape
  else
    match escaped? letter with
    | some byte => return [byte]
    | none => failHere .escapeInvalid

/-- Whether a byte of a string stands for itself. -/
def isPlain (byte : UInt8) : Bool :=
  0x20 ≤ byte && byte != 0x22 && byte != 0x5C

/-- Takes the bytes at the cursor that stand for themselves. -/
def readPlain : Reader Bytes := do
  let cursor ← get
  let plain := cursor.rest.takeWhile isPlain
  set (⟨cursor.rest.drop plain.length,
    ⟨cursor.position.line, cursor.position.column + plain.length⟩⟩ : Cursor)
  return plain

/-- Reads the bytes of a string up to its closing quote, which stays; `fuel` exceeds the number of
escapes. -/
def readStringBytes (fuel : Nat) : Reader Bytes := do
  let plain ← readPlain
  match fuel, ← peek with
  | _, none => failHere .stringEnds
  | 0, some _ => failHere .stringEnds
  | fuel + 1, some byte =>
      if byte = 0x22 then return plain
      else if byte = 0x5C then do
        advance
        let escape ← readEscape
        let others ← readStringBytes fuel
        return plain ++ escape ++ others
      else do
        advance
        failHere .controlCharacter

/-- Reads a string behind its opening quote. -/
def readString : Reader String := do
  let bytes ← readStringBytes ((← get).rest.length + 1)
  match Bytes.decode? bytes with
  | some text => do
      advance
      return text
  | none => failHere .codePointInvalid

/-! ## Arrays and objects -/

/-- Whether another item of an array follows. -/
def hasItem (first : Bool) : Reader Bool := do
  match ← skipBlanks with
  | none => failAhead .listEnds
  | some 0x5D => return false
  | some byte =>
      if first then return true
      else if byte = 0x2C then do
        advance
        match ← skipBlanks with
        | some 0x5D => failAhead .commaTrailing
        | some _ => return true
        | none => failAhead .valueEnds
      else failAhead .listCommaOrEndMissing

/-- Whether another member of an object follows; then its name stands at the cursor. -/
def hasMember (first : Bool) : Reader Bool := do
  match ← skipBlanks with
  | none => failAhead .objectEnds
  | some 0x7D => return false
  | some byte =>
      if first then
        if byte = 0x22 then return true else failAhead .keyNotString
      else if byte = 0x2C then do
        advance
        match ← skipBlanks with
        | some 0x22 => return true
        | some 0x7D => failAhead .commaTrailing
        | some _ => failAhead .keyNotString
        | none => failAhead .valueEnds
      else failAhead .objectCommaOrEndMissing

/-- Passes the colon between a name and its value. -/
def readColon : Reader Unit := do
  match ← skipBlanks with
  | some 0x3A => advance
  | some _ => failAhead .colonMissing
  | none => failAhead .objectEnds

/-- Passes the end of an array. -/
def endItems : Reader Unit := do
  match ← skipBlanks with
  | some 0x5D => advance
  | some 0x2C =>
      advance
      match ← skipBlanks with
      | some 0x5D => failAhead .commaTrailing
      | _ => failAhead .charactersTrailing
  | some _ => failAhead .charactersTrailing
  | none => failAhead .listEnds

/-- Passes the end of an object. -/
def endMembers : Reader Unit := do
  match ← skipBlanks with
  | some 0x7D => advance
  | some 0x2C => failAhead .commaTrailing
  | some _ => failAhead .charactersTrailing
  | none => failAhead .objectEnds

/-- Reads items one after another; `fuel` exceeds their number. -/
def readItems {α : Type} (item : Reader α) (first : Bool) : (fuel : Nat) → Reader (List α)
  | 0 => return []
  | fuel + 1 => do
      if ← hasItem first then
        let value ← item
        let others ← readItems item false fuel
        return value :: others
      else return []

/-- Reads members one after another; `fuel` exceeds their number. -/
def readMembers {α : Type} (value : Reader α) (first : Bool) :
    (fuel : Nat) → Reader (List (String × α))
  | 0 => return []
  | fuel + 1 => do
      if ← hasMember first then
        advance
        let name ← readString
        readColon
        let held ← value
        let others ← readMembers value false fuel
        return (name, held) :: others
      else return []

/-- A number that exceeds the items that the rest of the text can hold. -/
def itemBound : Reader Nat := do
  return (← get).rest.length + 1

/-- Reads the inside of an array or object one level down, and its end. -/
def nested {α : Type} (depth : Nat) (inside : Nat → Reader α) (ending : Reader Unit) :
    Reader α := do
  match depth with
  | 0 | 1 => failAhead .nestingTooDeep
  | depth + 1 =>
      advance
      thenEnd (inside depth) ending

/-- The levels of nesting that a text may have. -/
def greatestDepth : Nat := 128

/-- Reads a value with at most `depth` levels of nesting. -/
def readValue : (depth : Nat) → Reader Json
  | 0 => failAhead .nestingTooDeep
  | depth + 1 => placed do
      match ← skipBlanks with
      | none => failAhead .valueEnds
      | some byte =>
          if byte = 0x6E then do advance; readWord wordNull; return .null
          else if byte = 0x74 then do advance; readWord wordTrue; return .bool true
          else if byte = 0x66 then do advance; readWord wordFalse; return .bool false
          else if byte = 0x2D then do advance; return .number (← readNumber true)
          else if (digit? (some byte)).isSome then return .number (← readNumber false)
          else if byte = 0x22 then do advance; return .string (← readString)
          else if byte = 0x5B then
            if depth = 0 then failAhead .nestingTooDeep
            else do
              advance
              let items ← thenEnd
                (do readItems (readValue depth) true (← itemBound)) endItems
              return .array items
          else if byte = 0x7B then
            if depth = 0 then failAhead .nestingTooDeep
            else do
              advance
              let members ← thenEnd
                (do readMembers (readValue depth) true (← itemBound)) endMembers
              return .ofMembers members
          else failAhead .valueMissing

/-! ## Passing over values -/

/-- Passes over a string behind its opening quote; escapes are checked by letter only. -/
def skipString (fuel : Nat) : Reader Unit := do
  let _ ← readPlain
  match fuel, ← peek with
  | _, none => failHere .stringEnds
  | 0, some _ => failHere .stringEnds
  | fuel + 1, some byte =>
      if byte = 0x22 then advance
      else if byte = 0x5C then do
        advance
        let letter ← nextOfString
        if letter = 0x75 then do
          let _ ← readHexDigits
          skipString fuel
        else
          match escaped? letter with
          | some _ => skipString fuel
          | none => failHere .escapeInvalid
      else failHere .controlCharacter

/-- Passes over a number whose sign has been passed. -/
def skipNumber : Reader Unit := do
  match digit? (← next) with
  | none => failHere .numberInvalid
  | some leading => do
      if leading = 0 then
        if (digit? (← peek)).isSome then failAhead .numberInvalid
      else
        let _ ← skipDigits
      if (← peek) = some 0x2E then
        advance
        if (← skipDigits) = 0 then failAhead .numberInvalid
      if isExponentMark (← peek) then
        advance
        if (← peek) = some 0x2B || (← peek) = some 0x2D then advance
        match digit? (← next) with
        | none => failHere .numberInvalid
        | some _ => let _ ← skipDigits

/-- What encloses the place of a reader that passes over values. -/
inductive Enclosure where
  | list
  | object
deriving DecidableEq, Repr

/-- Fails because neither a comma nor the end of the enclosure follows. -/
def Enclosure.failSeparator {α : Type} : Enclosure → Reader α
  | .list => failAhead .listCommaOrEndMissing
  | .object => failAhead .objectCommaOrEndMissing

/-- Passes over one plain value, or the opening mark of an array or object. -/
def skipPart : Reader (Option Enclosure) := do
  match ← skipBlanks with
  | none => failAhead .valueEnds
  | some byte =>
      if byte = 0x6E then do advance; readWord wordNull; return none
      else if byte = 0x74 then do advance; readWord wordTrue; return none
      else if byte = 0x66 then do advance; readWord wordFalse; return none
      else if byte = 0x2D then do advance; skipNumber; return none
      else if (digit? (some byte)).isSome then do skipNumber; return none
      else if byte = 0x22 then do advance; skipString (← itemBound); return none
      else if byte = 0x5B then do advance; return some .list
      else if byte = 0x7B then do advance; return some .object
      else failAhead .valueMissing

/-- Passes the ends of enclosures, up to the place of the next value if there is one. -/
def skipEnds (fresh : Bool) : List Enclosure → Reader (Option (List Enclosure))
  | [] => return none
  | inner :: outer => do
      match ← skipBlanks with
      | none =>
          match inner with
          | .list => failAhead .listEnds
          | .object => failAhead .objectEnds
      | some byte =>
          if byte = 0x2C && !fresh then do
            advance
            return some (inner :: outer)
          else if (byte = 0x5D && inner = .list) || (byte = 0x7D && inner = .object) then do
            advance
            skipEnds false outer
          else if fresh then return some (inner :: outer)
          else inner.failSeparator

/-- Passes over the name of a member and its colon. -/
def skipName : Reader Unit := do
  match ← skipBlanks with
  | some 0x22 =>
      advance
      skipString (← itemBound)
      readColon
  | some _ => failAhead .keyNotString
  | none => failAhead .objectEnds

/-- Passes over a value and what encloses it; `fuel` exceeds the number of its parts. -/
def skipParts (enclosing : List Enclosure) : (fuel : Nat) → Reader Unit
  | 0 => return ()
  | fuel + 1 => do
      let opened ← skipPart
      let ahead ←
        match opened with
        | some enclosure => skipEnds true (enclosure :: enclosing)
        | none => skipEnds false enclosing
      match ahead with
      | none => return ()
      | some stack => do
          if stack.head? = some .object then skipName
          skipParts stack fuel

/-- Passes over one value of any depth. -/
def skipValue : Reader Unit := do
  skipParts [] ((← get).rest.length + 1)

/-! ## Whole texts -/

/-- Reads a whole text: nothing but blanks may follow. -/
def readWhole {α : Type} (reader : Reader α) (text : Bytes) : Except Fault α :=
  let whole : Reader α := do
    let value ← reader
    match ← skipBlanks with
    | none => return value
    | some _ => failAhead .charactersTrailing
  (whole ⟨text, ⟨1, 0⟩⟩).1

/-- The value that a text spells. -/
def ofBytes (text : Bytes) : Except Fault Json :=
  readWhole (readValue greatestDepth) text

end RequestHub.Json
