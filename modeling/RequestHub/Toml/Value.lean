import RequestHub.Decimal.Binary64

/-!
# TOML values

Settings may be written in TOML.  Its values are texts, integers of 64 bits, floating-point numbers,
truth values, moments, arrays and tables.  No setting is a moment, so a moment is only told apart from
the other values; which date or time it is does not count.
-/

namespace RequestHub.Toml

/-- A TOML value. -/
inductive Value where
  | string (text : String)
  | integer (value : Int)
  | real (value : Real64)
  | bool (value : Bool)
  /-- A date, a time of day, or both. -/
  | moment
  | array (items : List Value)
  | table (members : List (String × Value))
deriving Inhabited, Repr

namespace Value

/-- Whether a value is an array or a table without anything in it. -/
def isBare : Value → Bool
  | .array items => items.isEmpty
  | .table members => members.isEmpty
  | _ => false

end Value

end RequestHub.Toml
