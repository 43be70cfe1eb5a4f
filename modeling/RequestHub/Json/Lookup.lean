import RequestHub.Json.Basic

/-!
# Looking into values

Descriptions in JSON are read leniently: what is missing or of another kind counts as absent.
-/

namespace RequestHub.Json

/-- The member under a name, `null` if it is not there. -/
def field (value : Json) (name : String) : Json :=
  (value.member? name).getD .null

/-- The member under a name, unless it is `null`. -/
def field? (value : Json) (name : String) : Option Json :=
  (value.member? name).filter fun value => !value.isNull

/-- The text that a value is. -/
def text? : Json → Option String
  | .string text => some text
  | _ => none

/-- The text that a value is, or else the empty one. -/
def text (value : Json) : String :=
  value.text?.getD ""

/-- The integer that a value is. -/
def int? : Json → Option Int
  | .number (.integer value) => some value
  | _ => none

/-- The items of a sequence. -/
def items : Json → List Json
  | .array items => items
  | _ => []

/-- The members of an object. -/
def members : Json → Names Json
  | .object members => members
  | _ => []

/-- The text under a name. -/
def textAt? (value : Json) (name : String) : Option String :=
  (value.field name).text?

/-- The text under a name, or else the empty one. -/
def textAt (value : Json) (name : String) : String :=
  (value.field name).text

/-- The natural number under a name. -/
def natAt? (value : Json) (name : String) : Option Nat :=
  (value.field name).int?.map Int.toNat

/-- The natural number under a name, or else zero. -/
def natAt (value : Json) (name : String) : Nat :=
  (value.natAt? name).getD 0

/-- The truth value under a name. -/
def boolAt? (value : Json) (name : String) : Option Bool :=
  match value.field name with
  | .bool value => some value
  | _ => none

/-- The truth value under a name, or else falsity. -/
def boolAt (value : Json) (name : String) : Bool :=
  (value.boolAt? name).getD false

/-- The items under a name. -/
def itemsAt (value : Json) (name : String) : List Json :=
  (value.field name).items

/-- A natural number if there is one, otherwise `null`. -/
def ofNat? (value : Option Nat) : Json :=
  (value.map ofNat).getD .null

end RequestHub.Json
