import RequestHub.Names
import RequestHub.Text.Percent

/-!
# Query parameters

A query binds names to values: its pairs are joined by ampersands, and an equals sign stands between
the name and the value of a pair.  Empty pairs do not count, a pair without an equals sign has an
empty value, and of two values of one name the later one counts.
-/

namespace RequestHub.Query

/-- The name and the value of one pair. -/
def pair (text : List Char) : String × String :=
  let (name, value) := Text.cutOnce '=' text
  (Text.Percent.decodeForm name, Text.Percent.decodeForm (value.getD []))

/-- The pairs of a query, in the order in which they are written. -/
def pairs (query : String) : List (String × String) :=
  ((Text.cut '&' query.toList).filter fun piece => !piece.isEmpty).map pair

/-- The parameters of a query. -/
def parameters (query : String) : Names String :=
  Names.ofList (pairs query)

end RequestHub.Query
