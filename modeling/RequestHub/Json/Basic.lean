import RequestHub.Decimal.Power
import RequestHub.Decimal.Shortest
import RequestHub.Names

/-!
# JSON values

Configurations, documents and bodies hold JSON values.  An integer that fits into 64 bits stays an
integer, every other number is a binary floating-point number.  The members of an object are kept in
the order of their names, so that two objects with the same members are the same value.
-/

namespace RequestHub

namespace Json

/-- A number: an integer of 64 bits, with or without sign, or a floating-point number. -/
inductive Number where
  | integer (value : Int)
  | real (value : Real64)
deriving DecidableEq, Inhabited, Repr

/-- The integers that a number keeps as integers. -/
def Number.holdsInteger (value : Int) : Bool :=
  -(twoTo 63) ≤ value && value < twoTo 64

end Json

/-- A JSON value. -/
inductive Json where
  | null
  | bool (value : Bool)
  | number (value : Json.Number)
  | string (value : String)
  | array (items : List Json)
  | object (members : List (String × Json))
deriving Inhabited, Repr

namespace Json

/-! ## Equality -/

mutual

/-- Decides whether two values are equal. -/
def decideEq : (left right : Json) → Decidable (left = right)
  | .null, .null => isTrue rfl
  | .bool left, .bool right =>
      if equal : left = right then isTrue (equal ▸ rfl)
      else isFalse (by simpa using equal)
  | .number left, .number right =>
      if equal : left = right then isTrue (equal ▸ rfl)
      else isFalse (by simpa using equal)
  | .string left, .string right =>
      if equal : left = right then isTrue (equal ▸ rfl)
      else isFalse (by simpa using equal)
  | .array left, .array right =>
      match decideItems left right with
      | isTrue equal => isTrue (equal ▸ rfl)
      | isFalse different => isFalse (by simpa using different)
  | .object left, .object right =>
      match decideMembers left right with
      | isTrue equal => isTrue (equal ▸ rfl)
      | isFalse different => isFalse (by simpa using different)
  | .null, .bool _ | .null, .number _ | .null, .string _ | .null, .array _ | .null, .object _
  | .bool _, .null | .bool _, .number _ | .bool _, .string _ | .bool _, .array _
  | .bool _, .object _ | .number _, .null | .number _, .bool _ | .number _, .string _
  | .number _, .array _ | .number _, .object _ | .string _, .null | .string _, .bool _
  | .string _, .number _ | .string _, .array _ | .string _, .object _ | .array _, .null
  | .array _, .bool _ | .array _, .number _ | .array _, .string _ | .array _, .object _
  | .object _, .null | .object _, .bool _ | .object _, .number _ | .object _, .string _
  | .object _, .array _ => isFalse (by simp)

/-- Decides whether two sequences of values are equal. -/
def decideItems : (left right : List Json) → Decidable (left = right)
  | [], [] => isTrue rfl
  | [], _ :: _ => isFalse (by simp)
  | _ :: _, [] => isFalse (by simp)
  | left :: lefts, right :: rights =>
      match decideEq left right, decideItems lefts rights with
      | isTrue first, isTrue others => isTrue (by rw [first, others])
      | isFalse different, _ => isFalse (by simp [different])
      | _, isFalse different => isFalse (by simp [different])

/-- Decides whether two lists of members are equal. -/
def decideMembers : (left right : List (String × Json)) → Decidable (left = right)
  | [], [] => isTrue rfl
  | [], _ :: _ => isFalse (by simp)
  | _ :: _, [] => isFalse (by simp)
  | (leftName, left) :: lefts, (rightName, right) :: rights =>
      if names : leftName = rightName then
        match decideEq left right, decideMembers lefts rights with
        | isTrue first, isTrue others => isTrue (by rw [names, first, others])
        | isFalse different, _ => isFalse (by simp [different])
        | _, isFalse different => isFalse (by simp [different])
      else isFalse (by simp [names])

end

instance : DecidableEq Json := decideEq

/-! ## Members -/

/-- The object with the given members; of two with one name the later one counts. -/
def ofMembers (members : List (String × Json)) : Json :=
  .object (Names.ofList members)

/-- The value under a name of an object, if there is one. -/
def member? (name : String) : Json → Option Json
  | .object members => Names.find? name members
  | _ => none

/-- Whether a value is `null`. -/
def isNull : Json → Bool
  | .null => true
  | _ => false

/-- The integer as a number: one that does not fit into 64 bits is rounded. -/
def ofInt (value : Int) : Json :=
  if Number.holdsInteger value then .number (.integer value)
  else .number (.real (Real64.ofInt value))

/-- The natural number as a number. -/
def ofNat (value : Nat) : Json :=
  ofInt value

/-- A text if there is one, otherwise `null`. -/
def ofString? : Option String → Json
  | some text => .string text
  | none => .null

/-- A sequence of texts. -/
def ofStrings (texts : List String) : Json :=
  .array (texts.map .string)

end Json

end RequestHub
