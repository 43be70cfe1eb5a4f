import RequestHub.Http.Headers
import RequestHub.Http.Status

/-!
# Deliveries

What is posted to a remote hub, and what becomes of it.  Nothing here decides whether the remote hub
can be reached or what it answers: a session is given the delivery of each of its postings.
-/

namespace RequestHub

/-- A request that is sent to a remote hub. -/
structure Posting where
  url : String
  headers : Headers
  body : Bytes
deriving DecidableEq, Inhabited, Repr

/-- What becomes of a posting; all times are in milliseconds. -/
inductive Delivery where
  /-- There is no connection. -/
  | refused
  /-- The connection breaks after some time, before a status line has come. -/
  | broken (delay : Nat)
  /-- A status line comes after some time, and after some more the body, unless the connection breaks. -/
  | answered (delay : Nat) (status : Status) (more : Nat) (body : Option Bytes)
deriving DecidableEq, Inhabited, Repr

end RequestHub
