import RequestHub.Decimal.Power
import RequestHub.KeyValue.Store
import RequestHub.Log.Entry
import RequestHub.Remote.Delivery
import RequestHub.Trace
import RequestHub.Uuid

/-!
# Sessions

Work happens in a session: it takes time, cancels tokens, makes identifiers, writes to the log, changes
the stores of key-value targets and posts to remote hubs.  What a session cannot decide for itself is
given with it: the length of the random part of each wait, the delivery of each posting, and the
sampling of the traces that begin in it.

A token is the path from the first token of its family to it, so that cancelling one ends exactly the
tokens whose path goes through it.
-/

namespace RequestHub

/-- A token that work can be cancelled by: the path to it through the tokens that it comes from. -/
abbrev Token := List Nat

/-- What work finds, and what it leaves behind. -/
structure Session where
  /-- The beginning of the session, in milliseconds since the beginning of 1970. -/
  epoch : Nat
  /-- The time since the beginning, in nanoseconds. -/
  now : Nat
  /-- The tokens that were cancelled. -/
  cancelled : List Token
  /-- How many tokens, identifiers and spans have been made. -/
  made : Nat
  /-- The entries written, in order. -/
  log : List LogEntry
  /-- The instances of counting targets that were called, in order. -/
  called : List Nat
  /-- The documents of each key-value target, by the number of its instance. -/
  stores : List (Nat × KeyValue.Store)
  /-- The postings, in order. -/
  posted : List Posting
  /-- How often a random length was asked for. -/
  drawn : Nat
  /-- What becomes of each posting. -/
  delivery : Nat → Delivery
  /-- The random lengths, in nanoseconds. -/
  chance : Nat → Nat
  sampling : Sampling

namespace Session

/-- A session at its beginning. -/
def start (epoch : Nat) (delivery : Nat → Delivery) (chance : Nat → Nat) (sampling : Sampling) :
    Session :=
  { epoch, now := 0, cancelled := [], made := 0, log := [], called := [], stores := [], posted := [],
    drawn := 0, delivery, chance, sampling }

/-- The nanoseconds of a millisecond. -/
def milli : Nat := 1000000

/-- The nanoseconds of a second. -/
def second : Nat := 1000000000

/-- The time since the beginning of 1970, in milliseconds. -/
def millis (session : Session) : Nat :=
  session.epoch + session.now / milli

/-- The first whole millisecond that is not before an instant. -/
def tick (instant : Nat) : Nat :=
  (instant + (milli - 1)) / milli * milli

/-- Whether a token is cancelled: it or one that it comes from was. -/
def isCancelled (session : Session) (token : Token) : Bool :=
  session.cancelled.any fun cancelled => cancelled.isPrefixOf token

/-- The session after a token was cancelled. -/
def cancel (session : Session) (token : Token) : Session :=
  { session with cancelled := token :: session.cancelled }

/-- A new identifier. -/
def freshId (session : Session) : Uuid × Session :=
  (Uuid.fresh session.millis session.made, { session with made := session.made + 1 })

/-- A new token that comes from another. -/
def freshToken (session : Session) (parent : Token) : Token × Session :=
  (parent ++ [session.made], { session with made := session.made + 1 })

/-- The numbers of new traces and spans begin here. -/
def firstSpan : Nat := 0xB5C0FBCFEC4D3B2F

/-- A new span under a parent or, without one, of a new trace. -/
def freshSpan (session : Session) (parent : Option Span) : Span × Session :=
  let number := (firstSpan + session.made) % twoTo 63 + twoTo 63
  (session.sampling.start parent (firstSpan * twoTo 64 + number) number,
    { session with made := session.made + 1 })

/-- The next random length. -/
def draw (session : Session) : Nat × Session :=
  (session.chance session.drawn, { session with drawn := session.drawn + 1 })

/-- Posts to a remote hub; the delivery is that of the number of the posting. -/
def post (session : Session) (posting : Posting) : Delivery × Session :=
  (session.delivery session.posted.length, { session with posted := session.posted ++ [posting] })

/-- The documents of a key-value target. -/
def store (session : Session) (serial : Nat) : KeyValue.Store :=
  (session.stores.lookup serial).getD []

/-- The session with other documents of a key-value target. -/
def withStore (session : Session) (serial : Nat) (store : KeyValue.Store) : Session :=
  { session with
    stores := (serial, store) :: session.stores.filter fun pair => pair.1 ≠ serial }

/-- How often a counting target was called. -/
def calls (session : Session) (serial : Nat) : Nat :=
  session.called.count serial

end Session

end RequestHub
