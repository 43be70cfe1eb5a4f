import RequestHub.Json.Lookup
import RequestHub.Shutdown

/-!
# Trials of shutting down

Copies of one shutdown signal, tokens below it, open connections and those that wait for them are kept by
name, and each step of a trial changes or watches them.
-/

namespace RequestHub.Trial

/-- What a trial of shutting down keeps. -/
structure ShutdownDesk where
  main : ShutdownSignal
  signals : Names ShutdownSignal
  children : Names Token := []
  drain : Drain := .fresh
  session : Session

namespace ShutdownDesk

/-- A desk with a new signal. -/
def start (session : Session) : ShutdownDesk :=
  let (main, session) := ShutdownSignal.make session
  { main, signals := [("main", main)], session }

/-- The desk after some steps of connections and waiters. -/
def moved (desk : ShutdownDesk) (moves : List Drain.Move) : ShutdownDesk :=
  { desk with drain := desk.drain.after moves }

/-- Opens a connection under a name, in the place of the one it had. -/
def acquire (desk : ShutdownDesk) (name : String) : ShutdownDesk :=
  desk.moved (Drain.closing name ++ [.acquire name])

/-- Whether a waiter returns that has its turn before some steps and again after them. -/
def wait (desk : ShutdownDesk) (between : List Drain.Move) : Bool × ShutdownDesk :=
  let waiter := "waiter"
  let desk := desk.moved ([.call waiter] ++ Drain.turn waiter ++ between ++ Drain.turn waiter)
  (desk.drain.hasReturned waiter, desk.moved [.leave waiter])

/-- Cancels some tokens. -/
def cancel (desk : ShutdownDesk) (tokens : List Token) : ShutdownDesk :=
  { desk with session := tokens.foldl Session.cancel desk.session }

/-- Takes a step. -/
def step (desk : ShutdownDesk) (step : Json) : Json × ShutdownDesk :=
  let name := (step.textAt? "name").getD "main"
  let signal := desk.signals.find? name
  match step.textAt "do" with
  | "acquire" => (.null, desk.acquire name)
  | "release" => (.bool (desk.drain.held.contains name), desk.moved (Drain.closing name))
  | "clone" => (.null, { desk with signals := Names.insert name desk.main desk.signals })
  | "child" =>
      let (token, session) := desk.main.child desk.session
      (.null, { desk with children := Names.insert name token desk.children, session })
  | "cancel_child" => (.null, desk.cancel (desk.children.find? name).toList)
  | "trigger" => (.null, desk.cancel (signal.map (·.token)).toList)
  | "recv" => (.bool (signal.any fun signal => signal.isShutdown desk.session), desk)
  | "wait_released" =>
      let (returned, desk) := desk.wait (Drain.closing name)
      (.bool returned, desk)
  | _ =>
      let (returned, desk) := desk.wait []
      (.bool returned, desk)

/-- What is to be seen after a step. -/
def view (desk : ShutdownDesk) (result : Json) : Json :=
  Json.ofMembers
    [("result", result), ("active", .ofNat desk.drain.connections.active),
      ("shutdown", Json.ofMembers (desk.signals.map fun (name, signal) =>
        (name, .bool (signal.isShutdown desk.session)))),
      ("children", Json.ofMembers (desk.children.map fun (name, token) =>
        (name, .bool (desk.session.isCancelled token))))]

end ShutdownDesk

end RequestHub.Trial
