import RequestHub.Decimal.Power
import RequestHub.Json.Reader
import RequestHub.Toml.Value
import RequestHub.Yaml.Scalar

/-!
# Decoders

Configurations, documents and envelopes have fixed shapes.  A `Decoder` for a type reads it from each
of the notations in which it may come: from a JSON value, from JSON text, from a YAML node and from a
TOML value.  The first two say what is wrong and, for text, where; the others only say whether the
node or value fits.

A record is read field by field.  Unknown fields are passed over unless the record is closed, a field
may not come twice, and a record may also be written as a sequence of its fields.  While a text is
read, the first fault in the order of the text is the one reported; in a value the fields come in the
order of their names.
-/

namespace RequestHub

open Json

/-- How a type is read from each of the notations. -/
structure Decoder (α : Type) where
  ofValue : Json → Except Mismatch α
  ofText : (depth : Nat) → Reader α
  ofNode : (depth : Nat) → Yaml.Node → Option α
  ofToml : Toml.Value → Option α

namespace Decoder

variable {α β : Type}

/-! ## Reading text -/

/-- Fails because of the kind of value at the cursor. -/
def failKind (expected : String) : Reader α := Reader.placed do
  let fail (seen : Seen) : Reader α := Reader.mismatch (.kind seen expected)
  match ← Reader.peek with
  | none => Reader.failAhead .valueMissing
  | some byte =>
      if byte = 0x6E then do Reader.advance; readWord wordNull; fail .null
      else if byte = 0x74 then do Reader.advance; readWord wordTrue; fail (.bool true)
      else if byte = 0x66 then do Reader.advance; readWord wordFalse; fail (.bool false)
      else if byte = 0x2D then do
        Reader.advance
        fail (.number (← readNumber true))
      else if (digit? (some byte)).isSome then do fail (.number (← readNumber false))
      else if byte = 0x22 then do
        Reader.advance
        fail (.string (← readString))
      else if byte = 0x5B then fail .sequence
      else if byte = 0x7B then fail .mapping
      else Reader.failAhead .valueMissing

/-- Reads a value whose first byte satisfies a test; others are of the wrong kind. -/
def readStarting (test : UInt8 → Bool) (expected : String) (body : UInt8 → Reader α) :
    Reader α := Reader.placed do
  match ← skipBlanks with
  | none => Reader.failAhead .valueEnds
  | some byte => if test byte then body byte else failKind expected

/-! ## Plain types -/

/-- Any value; nothing that is written in TOML holds one. -/
def any : Decoder Json where
  ofValue := .ok
  ofText := readValue
  ofNode := fun depth node => node.toJson? depth
  ofToml := fun _ => none

/-- A text. -/
def string : Decoder String where
  ofValue
    | .string text => .ok text
    | other => .error (.kind other.seen "a string")
  ofText := fun _ => readStarting (· = 0x22) "a string" fun _ => do
    Reader.advance
    readString
  ofNode := fun _ node =>
    match node with
    | .scalar text _ _ _ => some text
    | _ => none
  ofToml
    | .string text => some text
    | _ => none

/-- A truth value. -/
def bool : Decoder Bool where
  ofValue
    | .bool value => .ok value
    | other => .error (.kind other.seen "a boolean")
  ofText := fun _ => readStarting (fun byte => byte = 0x74 || byte = 0x66) "a boolean" fun byte => do
    Reader.advance
    if byte = 0x74 then do readWord wordTrue; return true
    else do readWord wordFalse; return false
  ofNode := fun _ node =>
    match node with
    | .scalar text plain literal tag =>
        if Yaml.Node.isPlainOr "bool" plain literal tag then Yaml.Scalar.bool? text else none
    | _ => none
  ofToml
    | .bool value => some value
    | _ => none

/-- The integer of a number that must lie within bounds. -/
def boundedInteger (low high : Int) (name : String) (found : Number) : Except Mismatch Int :=
  match found with
  | .integer value =>
      if low ≤ value && value ≤ high then .ok value
      else .error (.value (.number found) name)
  | .real _ => .error (.kind (.number found) name)

/-- Whether a byte begins a number. -/
def startsNumber (byte : UInt8) : Bool :=
  byte = 0x2D || (digit? (some byte)).isSome

/-- Reads a number whose first byte is at the cursor. -/
def readSigned (byte : UInt8) : Reader Number := do
  if byte = 0x2D then do
    Reader.advance
    readNumber true
  else readNumber false

/-- An integer between two bounds, under the name that messages give it. -/
def integer (low high : Int) (name : String) : Decoder Int where
  ofValue
    | .number found => boundedInteger low high name found
    | other => .error (.kind other.seen name)
  ofText := fun _ => readStarting startsNumber name fun byte => do
    match boundedInteger low high name (← readSigned byte) with
    | .ok value => return value
    | .error cause => Reader.mismatch cause
  ofNode := fun _ node =>
    match node with
    | .scalar text plain literal tag =>
        if Yaml.Node.isPlainOr "int" plain literal tag then
          (Yaml.Scalar.integer? text.toList).filter fun value =>
            low ≤ value && value ≤ high && !(0 ≤ low && text.startsWith "-")
        else none
    | _ => none
  ofToml
    | .integer value => if low ≤ value && value ≤ high then some value else none
    | _ => none

/-- The floating-point value of a number. -/
def realOf : Number → Real64
  | .integer value => Real64.ofInt value
  | .real value => value

/-- A floating-point number; integers are taken too. -/
def real : Decoder Real64 where
  ofValue
    | .number found => .ok (realOf found)
    | other => .error (.kind other.seen "f64")
  ofText := fun _ => readStarting startsNumber "f64" fun byte => do
    return realOf (← readSigned byte)
  ofNode := fun _ node =>
    match node with
    | .scalar text plain literal tag =>
        if Yaml.Node.isPlainOr "float" plain literal tag then Yaml.Scalar.real? text.toList
        else none
    | _ => none
  ofToml
    | .integer value => some (Real64.ofInt value)
    | .real value => some value
    | _ => none

/-! ## Decoders from decoders -/

/-- What a decoder reads, changed by a function. -/
def map (change : α → β) (decoder : Decoder α) : Decoder β where
  ofValue := fun value => (decoder.ofValue value).map change
  ofText := fun depth => do return change (← decoder.ofText depth)
  ofNode := fun depth node => (decoder.ofNode depth node).map change
  ofToml := fun value => (decoder.ofToml value).map change

/-- What a decoder reads, if a function accepts it; otherwise its message is the cause. -/
def refine (accept : α → Except String β) (decoder : Decoder α) : Decoder β where
  ofValue := fun value => do
    match accept (← decoder.ofValue value) with
    | .ok result => .ok result
    | .error message => .error (.refused message)
  ofText := fun depth => do
    match accept (← decoder.ofText depth) with
    | .ok result => return result
    | .error message => Reader.mismatch (.refused message)
  ofNode := fun depth node => do
    (accept (← decoder.ofNode depth node)).toOption
  ofToml := fun value => do
    (accept (← decoder.ofToml value)).toOption

/-- A natural number below a bound, under the name that messages give it. -/
def natural (bound : Nat) (name : String) : Decoder Nat :=
  (integer 0 (bound - 1) name).map Int.toNat

/-- A natural number of 16 bits. -/
def natural16 : Decoder Nat := natural (twoTo 16) "u16"

/-- A natural number of 32 bits. -/
def natural32 : Decoder Nat := natural (twoTo 32) "u32"

/-- A natural number of 64 bits. -/
def natural64 : Decoder Nat := natural (twoTo 64) "u64"

/-- A number of bytes. -/
def size : Decoder Nat := natural (twoTo 64) "usize"

/-- An integer of 32 bits. -/
def integer32 : Decoder Int := integer (-(twoTo 31)) (twoTo 31 - 1) "i32"

/-- Whether a YAML node stands for a value that is not there. -/
def isNothing : Yaml.Node → Option Bool
  | .void => some true
  | .scalar text plain _ tag =>
      if !plain then some false
      else
        match tag with
        | some written =>
            if written == Yaml.coreTag "null" then
              if Yaml.Scalar.isNull text then some true else none
            else some false
        | none => some (text.isEmpty || Yaml.Scalar.isNull text)
  | _ => some false

/-- A value that may be `null`. -/
def optional (decoder : Decoder α) : Decoder (Option α) where
  ofValue
    | .null => .ok none
    | other => (decoder.ofValue other).map some
  ofText := fun depth => do
    match ← skipBlanks with
    | some 0x6E => do
        Reader.advance
        readWord wordNull
        return none
    | _ => return some (← decoder.ofText depth)
  ofNode := fun depth node => do
    if ← isNothing node then return none else return some (← decoder.ofNode depth node)
  ofToml := fun value => (decoder.ofToml value).map some

/-- Whether a YAML node stands for a collection without items. -/
def isBare : Yaml.Node → Bool
  | .void => true
  | .scalar text plain _ _ => plain && text.isEmpty
  | _ => false

/-- A sequence of values. -/
def sequence (decoder : Decoder α) : Decoder (List α) where
  ofValue
    | .array items => items.mapM decoder.ofValue
    | other => .error (.kind other.seen "a sequence")
  ofText := fun depth => readStarting (· = 0x5B) "a sequence" fun _ =>
    nested depth
      (fun depth => do readItems (decoder.ofText depth) true (← itemBound)) endItems
  ofNode := fun depth node =>
    match depth, node with
    | depth + 1, .sequence items _ => items.mapM (decoder.ofNode depth)
    | _, node => if isBare node then some [] else none
  ofToml
    | .array items => items.mapM decoder.ofToml
    | _ => none

/-- The text of a key of a YAML mapping. -/
def keyText? : Yaml.Node → Option String
  | .scalar text _ _ _ => some text
  | _ => none

/-- A table from names to values. -/
def mapping (decoder : Decoder α) : Decoder (Names α) where
  ofValue
    | .object members => do
        let pairs ← members.mapM fun (name, value) => do return (name, ← decoder.ofValue value)
        return Names.ofList pairs
    | other => .error (.kind other.seen "a map")
  ofText := fun depth => readStarting (· = 0x7B) "a map" fun _ =>
    nested depth
      (fun depth => do
        return Names.ofList (← readMembers (decoder.ofText depth) true (← itemBound)))
      endMembers
  ofNode := fun depth node =>
    match depth, node with
    | depth + 1, .mapping pairs _ => do
        let pairs ← pairs.mapM fun (key, value) => do
          return (← keyText? key, ← decoder.ofNode depth value)
        return Names.ofList pairs
    | _, node => if isBare node then some [] else none
  ofToml
    | .table members => members.mapM fun (name, value) => do return (name, ← decoder.ofToml value)
    | _ => none

/-! ## Choices -/

/-- The value that a name stands for among some choices. -/
def pick (variants : List (String × α)) (name : String) : Except Mismatch α :=
  match variants.lookup name with
  | some value => .ok value
  | none => .error (.unknownVariant name (variants.map (·.1)))

/--
One of some names; a name may also be the only key of a mapping whose value is `null`, or in TOML a
bare array or table.
-/
def choice (variants : List (String × α)) : Decoder α where
  ofValue
    | .string name => pick variants name
    | .object [(name, value)] => do
        let chosen ← pick variants name
        match value with
        | .null => return chosen
        | other => .error (.kind other.seen "unit")
    | .object _ => .error (.value .mapping "map with a single key")
    | other => .error (.kind other.seen "string or map")
  ofText := fun depth => do
    let readName : Reader α := Reader.placed do
      match pick variants (← string.ofText depth) with
      | .ok value => return value
      | .error cause => Reader.mismatch cause
    match ← skipBlanks with
    | none => Reader.failAhead .valueEnds
    | some byte =>
        if byte = 0x22 then readName
        else if byte = 0x7B then
          if depth ≤ 1 then Reader.failAhead .nestingTooDeep
          else do
            Reader.advance
            let chosen ← readName
            readColon
            let _ ← readStarting (· = 0x6E) "unit" fun _ => do
              Reader.advance
              readWord wordNull
            match ← skipBlanks with
            | some 0x7D => do
                Reader.advance
                return chosen
            | some _ => Reader.failHere .valueMissing
            | none => Reader.failHere .objectEnds
        else Reader.failAhead .valueMissing
  ofNode := fun _ node => do
    (pick variants (← keyText? node)).toOption
  ofToml
    | .string name => (pick variants name).toOption
    | .table [(name, value)] => if value.isBare then (pick variants name).toOption else none
    | _ => none

/-! ## Records -/

/-- What it means that a field does not come. -/
inductive Presence where
  /-- The field must come. -/
  | required
  /-- The field may be left out where fields are named. -/
  | optional
  /-- The field keeps the value that the record has without it. -/
  | defaulted
deriving DecidableEq, Repr

/-- A field of a record, and how reading it changes the record. -/
structure Field (α : Type) where
  name : String
  aliases : List String
  presence : Presence
  change : Decoder (α → α)

namespace Field

/-- A field that must come. -/
def required (name : String) (decoder : Decoder β) (set : β → α → α) : Field α :=
  ⟨name, [], .required, decoder.map set⟩

/-- A field that keeps its default when it does not come. -/
def defaulted (name : String) (decoder : Decoder β) (set : β → α → α) : Field α :=
  ⟨name, [], .defaulted, decoder.map set⟩

/-- A field that has no value when it does not come. -/
def optional (name : String) (decoder : Decoder β) (set : Option β → α → α) : Field α :=
  ⟨name, [], .optional, decoder.optional.map set⟩

/-- The field under another name as well. -/
def orCalled (other : String) (field : Field α) : Field α :=
  { field with aliases := other :: field.aliases }

/-- Whether a name is one of the field's. -/
def isCalled (name : String) (field : Field α) : Bool :=
  field.name == name || field.aliases.contains name

end Field

/-- A kind of record: its name in messages, its fields, and whether other fields are refused. -/
structure RecordShape (α : Type) where
  name : String
  closed : Bool
  blank : α
  fields : List (Field α)

namespace RecordShape

/-- The record in the words of a message. -/
def title (shape : RecordShape α) : String :=
  "struct " ++ shape.name

/-- The record and the number of its fields in the words of a message. -/
def sizedTitle (shape : RecordShape α) : String :=
  let count := shape.fields.length
  shape.title ++ " with " ++ toString count ++ (if count = 1 then " element" else " elements")

/-- What to do with a name: which field it is, or why it must not come. -/
def lookUp (shape : RecordShape α) (seen : List String) (name : String) :
    Except Mismatch (Option (Field α)) :=
  match shape.fields.find? (·.isCalled name) with
  | some field =>
      if seen.contains field.name then .error (.repeated field.name) else .ok (some field)
  | none =>
      if shape.closed then .error (.unknownField name (shape.fields.map (·.name)))
      else .ok none

/-- The record at the end of its fields, if none is missing. -/
def finish (shape : RecordShape α) (seen : List String) (record : α) : Except Mismatch α :=
  match shape.fields.find? fun field => field.presence = .required && !seen.contains field.name with
  | some field => .error (.missing field.name)
  | none => .ok record

/-- Reads named fields from the members of an object. -/
def ofMembers (shape : RecordShape α) (seen : List String) (record : α) :
    List (String × Json) → Except Mismatch α
  | [] => shape.finish seen record
  | (name, value) :: members => do
      match ← shape.lookUp seen name with
      | some field => do
          let change ← field.change.ofValue value
          shape.ofMembers (field.name :: seen) (change record) members
      | none => shape.ofMembers seen record members

/-- Reads fields in their order from the items of an array; the rest of the items is left. -/
def ofItems (shape : RecordShape α) (position : Nat) (record : α) :
    List (Field α) → List Json → Except Mismatch (α × List Json)
  | [], items => .ok (record, items)
  | field :: fields, [] =>
      if field.presence = .defaulted then shape.ofItems (position + 1) record fields []
      else .error (.length position shape.sizedTitle)
  | field :: fields, item :: items => do
      let change ← field.change.ofValue item
      shape.ofItems (position + 1) (change record) fields items

/-- Reads named fields from a text; `fuel` exceeds their number. -/
def readNamed (shape : RecordShape α) (depth : Nat) (first : Bool) (seen : List String)
    (record : α) : (fuel : Nat) → Reader α
  | 0 => Reader.failAhead .objectEnds
  | fuel + 1 => do
      if ← hasMember first then do
        Reader.advance
        let name ← readString
        match shape.lookUp seen name with
        | .error cause => Reader.mismatch cause
        | .ok (some field) => do
            readColon
            let change ← field.change.ofText depth
            shape.readNamed depth false (field.name :: seen) (change record) fuel
        | .ok none => do
            readColon
            skipValue
            shape.readNamed depth false seen record fuel
      else
        match shape.finish seen record with
        | .ok record => return record
        | .error cause => Reader.mismatch cause

/-- Reads fields in their order from a text. -/
def readOrdered (shape : RecordShape α) (depth : Nat) (position : Nat) (first : Bool)
    (record : α) : List (Field α) → Reader α
  | [] => return record
  | field :: fields => do
      if ← hasItem first then do
        let change ← field.change.ofText depth
        shape.readOrdered depth (position + 1) false (change record) fields
      else if field.presence = .defaulted then
        shape.readOrdered depth (position + 1) first record fields
      else Reader.mismatch (.length position shape.sizedTitle)

/-- Reads named fields from the pairs of a YAML mapping. -/
def ofPairs (shape : RecordShape α) (depth : Nat) (seen : List String) (record : α) :
    List (Yaml.Node × Yaml.Node) → Option α
  | [] => (shape.finish seen record).toOption
  | (key, value) :: pairs => do
      match ← (shape.lookUp seen (← keyText? key)).toOption with
      | some field => do
          let change ← field.change.ofNode depth value
          shape.ofPairs depth (field.name :: seen) (change record) pairs
      | none => shape.ofPairs depth seen record pairs

/-- Reads fields in their order from the items of a YAML sequence, which must not have more. -/
def ofNodes (shape : RecordShape α) (depth : Nat) (record : α) :
    List (Field α) → List Yaml.Node → Option α
  | [], items => if items.isEmpty then some record else none
  | field :: fields, [] =>
      if field.presence = .defaulted then shape.ofNodes depth record fields [] else none
  | field :: fields, item :: items => do
      let change ← field.change.ofNode depth item
      shape.ofNodes depth (change record) fields items

/-- Reads named fields from the members of a TOML table. -/
def ofTable (shape : RecordShape α) (seen : List String) (record : α) :
    List (String × Toml.Value) → Option α
  | [] => (shape.finish seen record).toOption
  | (name, value) :: members => do
      match ← (shape.lookUp seen name).toOption with
      | some field => do
          let change ← field.change.ofToml value
          shape.ofTable (field.name :: seen) (change record) members
      | none => shape.ofTable seen record members

/-- Reads fields in their order from the items of a TOML array, which may have more. -/
def ofArray (shape : RecordShape α) (record : α) : List (Field α) → List Toml.Value → Option α
  | [], _ => some record
  | field :: fields, [] =>
      if field.presence = .defaulted then shape.ofArray record fields [] else none
  | field :: fields, item :: items => do
      let change ← field.change.ofToml item
      shape.ofArray (change record) fields items

end RecordShape

/-- A record of a known shape. -/
def record (shape : RecordShape α) : Decoder α where
  ofValue
    | .object members => shape.ofMembers [] shape.blank members
    | .array items => do
        let (record, rest) ← shape.ofItems 0 shape.blank shape.fields items
        if rest.isEmpty then return record
        else .error (.length items.length "fewer elements in array")
    | other => .error (.kind other.seen shape.title)
  ofText := fun depth =>
    readStarting (fun byte => byte = 0x7B || byte = 0x5B) shape.title fun byte =>
      if byte = 0x7B then
        nested depth
          (fun depth => do shape.readNamed depth true [] shape.blank (← itemBound)) endMembers
      else
        nested depth
          (fun depth => shape.readOrdered depth 0 true shape.blank shape.fields) endItems
  ofNode := fun depth node =>
    match depth, node with
    | depth + 1, .mapping pairs _ => shape.ofPairs depth [] shape.blank pairs
    | depth + 1, .sequence items _ => shape.ofNodes depth shape.blank shape.fields items
    | _, node =>
        if isBare node then (shape.finish [] shape.blank).toOption else none
  ofToml
    | .table members => shape.ofTable [] shape.blank members
    | .array items => shape.ofArray shape.blank shape.fields items
    | _ => none

/-! ## Whole documents -/

/-- The value of a type that a JSON text spells. -/
def fromText (decoder : Decoder α) (text : Bytes) : Except Fault α :=
  readWhole (decoder.ofText greatestDepth) text

/-- The value of a type that a YAML text spells. -/
def fromYaml? (decoder : Decoder α) (text : String) : Option α := do
  decoder.ofNode Yaml.Node.greatestDepth (← Yaml.Node.ofString? text)

end Decoder

end RequestHub
