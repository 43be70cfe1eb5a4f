import RequestHub.View

/-!
# Answers of trials

A trial works through a description in JSON and answers in JSON.  Whatever goes wrong on the way is an
answer of its own, which ends the trial early.
-/

namespace RequestHub.Trial

/-- A result, or the answer that ends a trial early. -/
abbrev Answer := Except Json

/-- The answer of a trial, whether it ended early or not. -/
def settle : Answer Json → Json
  | .ok value => value
  | .error value => value

/-- What a description describes. -/
def described {α : Type} (description : Except Objection α) : Answer α :=
  description.mapError Objection.view

/-- What a decoder reads from a value. -/
def decode {α : Type} (decoder : Decoder α) (value : Json) : Answer α :=
  described (Description.decode decoder value)

/-- A result of a hub. -/
def orFailure {α : Type} (result : Except Failure α) : Answer α :=
  result.mapError Failure.view

/-- A result of a configuration. -/
def orConfigFailure {α : Type} (result : Except ConfigFailure α) : Answer α :=
  result.mapError ConfigFailure.view

end RequestHub.Trial
