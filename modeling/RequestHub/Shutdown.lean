import RequestHub.Names
import RequestHub.Session

/-!
# Shutting down

A server stops accepting connections when its shutdown signal is triggered, and then waits until the
connections that are open have been closed.  A signal is a token: whoever holds a copy of it can
trigger it, and the tokens below it are cancelled with it, but not it with them.

Connections are opened and closed while others wait for the last one to be closed.  A `Drain` has them
all, and takes one step of one of them at a time: nothing but a step is done at once.
-/

namespace RequestHub

/-- The signal that a server is to stop. -/
structure ShutdownSignal where
  token : Token
deriving DecidableEq, Repr

namespace ShutdownSignal

/-- A new signal. -/
def make (session : Session) : ShutdownSignal × Session :=
  let (token, session) := session.freshToken []
  (⟨token⟩, session)

/-- Gives the signal. -/
def trigger (signal : ShutdownSignal) (session : Session) : Session :=
  session.cancel signal.token

/-- Whether the signal was given. -/
def isShutdown (signal : ShutdownSignal) (session : Session) : Bool :=
  session.isCancelled signal.token

/-- A token that is cancelled when the signal is given. -/
def child (signal : ShutdownSignal) (session : Session) : Token × Session :=
  session.freshToken signal.token

end ShutdownSignal

/-- The connections that are open. -/
structure Connections where
  active : Nat := 0
deriving DecidableEq, Repr

namespace Connections

/-- Opens a connection. -/
def acquire (connections : Connections) : Connections :=
  ⟨connections.active + 1⟩

/-- Closes one of the open connections. -/
def release (connections : Connections) : Connections :=
  ⟨connections.active - 1⟩

/-- Whether no connection is open, which is what a stopping server waits for. -/
def isIdle (connections : Connections) : Bool :=
  connections.active = 0

end Connections

/-- Someone who waits until no connection is open. -/
inductive Waiter where
  | begins
  /-- It listens for the news that no connection is open, and may have been told since. -/
  | listens (told : Bool)
  /-- It has seen that a connection was open, and sleeps until it is told. -/
  | sleeps (told : Bool)
  /-- It has seen that no connection was open. -/
  | returned
deriving DecidableEq, Repr

namespace Waiter

/-- A waiter begins to listen; what was told before does not reach it. -/
def listen : Waiter → Waiter
  | begins => listens false
  | waiter => waiter

/-- A waiter that listens looks whether no connection is open. -/
def look (connections : Connections) : Waiter → Waiter
  | listens told => if connections.isIdle then returned else sleeps told
  | waiter => waiter

/-- The news that no connection is open reaches all that listen, asleep or not. -/
def tell : Waiter → Waiter
  | listens _ => listens true
  | sleeps _ => sleeps true
  | waiter => waiter

/-- A waiter that was told while it slept begins again: a connection may have been opened since. -/
def wake : Waiter → Waiter
  | sleeps true => begins
  | waiter => waiter

end Waiter

/-- Connections, and those that wait until none is open. -/
structure Drain where
  connections : Connections := {}
  /-- The names of the open connections. -/
  held : List String := []
  /-- The names of those that left no open connection behind, and have still to tell the waiters. -/
  announcing : List String := []
  waiters : Names Waiter := []
deriving DecidableEq, Repr

namespace Drain

/-- A step of one connection or of one waiter. -/
inductive Move where
  | acquire (connection : String)
  | release (connection : String)
  | announce (connection : String)
  | call (waiter : String)
  | listen (waiter : String)
  | look (waiter : String)
  | wake (waiter : String)
  | leave (waiter : String)
deriving DecidableEq, Repr

/-- No connections and no waiters. -/
def fresh : Drain := {}

/-- Opens a connection under a name that is not in use. -/
def acquire (drain : Drain) (name : String) : Drain :=
  if name ∈ drain.held ∨ name ∈ drain.announcing then drain
  else { drain with connections := drain.connections.acquire, held := name :: drain.held }

/-- Closes an open connection; the one that was the last is to tell the waiters. -/
def release (drain : Drain) (name : String) : Drain :=
  if name ∈ drain.held then
    { drain with
      connections := drain.connections.release
      held := drain.held.erase name
      announcing :=
        if drain.connections.active = 1 then name :: drain.announcing else drain.announcing }
  else drain

/-- Tells the waiters, if a connection has still to do so. -/
def announce (drain : Drain) (name : String) : Drain :=
  if name ∈ drain.announcing then
    { drain with
      announcing := drain.announcing.erase name
      waiters := drain.waiters.map fun waiter => (waiter.1, waiter.2.tell) }
  else drain

/-- Adds a waiter under a name that is not in use. -/
def call (drain : Drain) (name : String) : Drain :=
  match drain.waiters.find? name with
  | none => { drain with waiters := Names.insert name .begins drain.waiters }
  | some _ => drain

/-- Changes a waiter, if it is there. -/
def change (drain : Drain) (name : String) (change : Waiter → Waiter) : Drain :=
  match drain.waiters.find? name with
  | none => drain
  | some waiter => { drain with waiters := Names.insert name (change waiter) drain.waiters }

/-- Takes a step; one that cannot be taken changes nothing. -/
def step (drain : Drain) : Move → Drain
  | .acquire name => drain.acquire name
  | .release name => drain.release name
  | .announce name => drain.announce name
  | .call name => drain.call name
  | .listen name => drain.change name Waiter.listen
  | .look name => drain.change name (Waiter.look drain.connections)
  | .wake name => drain.change name Waiter.wake
  | .leave name => { drain with waiters := Names.erase name drain.waiters }

/-- Takes some steps, one after another. -/
def after (drain : Drain) (moves : List Move) : Drain :=
  moves.foldl step drain

/-- What closing a connection takes. -/
def closing (name : String) : List Move :=
  [.release name, .announce name]

/-- What a waiter does when it has its turn: it goes on until it returns or sleeps. -/
def turn (name : String) : List Move :=
  [.wake name, .listen name, .look name]

/-- Whether a waiter has returned. -/
def hasReturned (drain : Drain) (name : String) : Bool :=
  drain.waiters.find? name = some .returned

end Drain

end RequestHub
