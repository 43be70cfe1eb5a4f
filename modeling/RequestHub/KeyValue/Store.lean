import RequestHub.Json.Basic

/-!
# Stored documents

A key-value target keeps documents by their keys.  A document is a JSON object, kept as its members,
with the times of its making and of its last change.
-/

namespace RequestHub.KeyValue

/-- A document in a store; the times are in seconds since the beginning of 1970. -/
structure Document where
  members : Names Json
  created : Nat
  updated : Nat
deriving DecidableEq, Inhabited, Repr

/-- The documents of a target by their keys, in the order of keys. -/
abbrev Store := Names Document

end RequestHub.KeyValue
