import RequestHub.Text.Blank
import RequestHub.Text.Case
import RequestHub.Text.Split

/-!
# Routes

The path of a request names the service that answers it: its first two segments are the names of an
interface and of a service.  Calls from one service to another carry the prefix `/internal/call`,
which does not count for the route.  Services are found by a key in which letter case does not count.
-/

namespace RequestHub

/-- The prefix of the path of a call from one service to another. -/
def internalPrefix : String := "/internal/call"

/-- The key under which the service of an interface is found. -/
def routingKey (api service : String) : String :=
  Text.lower (api ++ "/" ++ service)

/-- What the path of a request says about its route. -/
structure Route where
  /-- The first segment. -/
  api : String
  /-- The second segment, empty if there is none. -/
  service : String
  /-- The path without the prefix of internal calls. -/
  path : String
deriving DecidableEq, Inhabited, Repr

namespace Route

/-- The path behind the prefix of internal calls, if the prefix is a whole part of it. -/
def dropInternal? (path : List Char) : Option (List Char) :=
  match Text.dropLead? internalPrefix.toList path with
  | some [] => some []
  | some ('/' :: rest) => some ('/' :: rest)
  | _ => none

/-- Whether a path is that of an internal call. -/
def isInternal (path : String) : Bool :=
  (dropInternal? path.toList).isSome

/-- The parts between slashes, without the slashes at both ends. -/
def segments (path : List Char) : List (List Char) :=
  Text.cut '/' (Text.trimBy (· = '/') path)

/-- The route of a path. -/
def ofPath (path : String) : Route :=
  let inner := (dropInternal? path.toList).getD path.toList
  let parts := segments inner
  { api := String.ofList (parts.getD 0 [])
    service := String.ofList (parts.getD 1 [])
    path := String.ofList inner }

/-- The key of a route. -/
def key (route : Route) : String :=
  routingKey route.api route.service

end Route

end RequestHub
