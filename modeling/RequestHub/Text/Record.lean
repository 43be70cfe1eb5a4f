import RequestHub.Text.Quoted

/-!
# Descriptions of records

A description of a record names it and lists its fields between braces; one that does not list all
of them ends in two points.  Optional values and sequences have descriptions of the same kind.
-/

namespace RequestHub.Text

/-- The description of a record by the descriptions of its fields. -/
def record (name : String) (fields : List (String × String)) (complete : Bool) : String :=
  let shown := fields.map fun (field, value) => field ++ ": " ++ value
  let shown := if complete then shown else shown ++ [".."]
  name ++ " \x7b " ++ String.intercalate ", " shown ++ " \x7d"

/-- The description of a value that may be missing. -/
def optional (value : Option String) : String :=
  match value with
  | some value => "Some(" ++ value ++ ")"
  | none => "None"

/-- The description of a sequence. -/
def sequence (values : List String) : String :=
  "[" ++ String.intercalate ", " values ++ "]"

/-- The description of a table. -/
def table (pairs : List (String × String)) : String :=
  "\x7b" ++ String.intercalate ", " (pairs.map fun (key, value) => key ++ ": " ++ value) ++ "\x7d"

end RequestHub.Text
