import RequestHub.Decimal.Power
import RequestHub.Duration
import RequestHub.Work

/-!
# Retrying with growing waits

An operation that fails is tried again after a wait, unless its error says that another attempt would
be useless.  Waits grow by a factor up to a limit, and a random part of at most half their length is
added to each.  The last error is told together with the number of attempts.
-/

namespace RequestHub

/-- How often to try, and how long to wait in between. -/
structure Backoff where
  /-- The first wait, in nanoseconds. -/
  initial : Nat
  /-- The longest of the later waits, in nanoseconds. -/
  longest : Nat
  factor : Real64
  /-- How many attempts are made at most; there is always one. -/
  attempts : Nat
deriving DecidableEq, Repr

namespace Backoff

/-- Three attempts; waits of a tenth of a second and double that. -/
def standard : Backoff :=
  { initial := 100 * Duration.milli
    longest := 10 * Duration.second
    factor := Real64.ofInt 2
    attempts := 3 }

instance : Inhabited Backoff := ⟨standard⟩

/-- What marks an error that another attempt cannot mend. -/
def marker : String := "error is unrecoverable - backoff cancelled"

/-- A message marked as that of an error that another attempt cannot mend. -/
def mark (message : String) : String :=
  marker ++ ": " ++ message

/-- Whether characters occur in others. -/
def occursIn (part : List Char) : List Char → Bool
  | [] => part.isEmpty
  | char :: chars => part.isPrefixOf (char :: chars) || occursIn part chars

/-- Whether a message is marked as that of an error that another attempt cannot mend. -/
def isMarked (message : String) : Bool :=
  occursIn marker.toList message.toList

/-- Why an operation was given up. -/
inductive GivenUp (ε : Type) where
  /-- Another attempt would be useless. -/
  | useless (error : ε)
  /-- All attempts have been made. -/
  | exhausted (attempts : Nat) (last : ε)
deriving Inhabited, Repr

namespace GivenUp

variable {ε : Type}

/-- The error of the last attempt. -/
def last : GivenUp ε → ε
  | .useless error => error
  | .exhausted _ error => error

/-- The number of attempts, if all have been made. -/
def attempts? : GivenUp ε → Option Nat
  | .useless _ => none
  | .exhausted attempts _ => some attempts

/-- Why an operation was given up, in words. -/
def message (words : ε → String) : GivenUp ε → String
  | .useless error => words error
  | .exhausted attempts error =>
      "all retry attempts failed after " ++ toString attempts ++ " attempts: " ++ words error

end GivenUp

/-- The wait that follows a wait. -/
def next (backoff : Backoff) (delay : Nat) : Nat :=
  min ((Duration.scaled? delay backoff.factor).getD backoff.longest) backoff.longest

/-- The greatest random part of a wait. -/
def greatestExtra (delay : Nat) : Nat :=
  min (delay / 2) (twoTo 64 - 1)

variable {σ α ε : Type}

/-- The random part of a wait. -/
def extra (delay : Nat) : Work σ Nat :=
  if greatestExtra delay = 0 then pure 0
  else do
    let chance ← Work.take Session.draw
    return chance % (greatestExtra delay + 1)

/-- Waits, and a random part longer. -/
def pause (delay : Nat) : Work σ Unit := do
  let extra ← extra delay
  if delay + extra ≤ Duration.greatest then Work.wait (delay + extra) else Work.abort

/-- Makes an attempt, and if it fails up to `more` others. -/
def attempt (backoff : Backoff) (isUseless : ε → Bool) (operation : Work σ (Except ε α))
    (number delay : Nat) : (more : Nat) → Work σ (Except (GivenUp ε) α)
  | 0 => do
      match ← operation with
      | .ok value => return .ok value
      | .error error =>
          if isUseless error then return .error (.useless error)
          else return .error (.exhausted number error)
  | more + 1 => do
      match ← operation with
      | .ok value => return .ok value
      | .error error =>
          if isUseless error then return .error (.useless error)
          else do
            pause delay
            attempt backoff isUseless operation (number + 1) (backoff.next delay) more

/-- Tries an operation until it succeeds, another attempt is useless, or all have been made. -/
def run (backoff : Backoff) (isUseless : ε → Bool) (operation : Work σ (Except ε α)) :
    Work σ (Except (GivenUp ε) α) :=
  attempt backoff isUseless operation 1 backoff.initial (backoff.attempts - 1)

/-- Tries an operation whose errors are marked, as they are told, if another attempt is useless. -/
def runMarked (backoff : Backoff) (words : ε → String) (operation : Work σ (Except ε α)) :
    Work σ (Except (GivenUp ε) α) :=
  backoff.run (fun error => isMarked (words error)) operation

end Backoff

end RequestHub
