import RequestHub.Proofs.Backoff.Progress
import RequestHub.Proofs.Except
import RequestHub.Remote.Client

/-!
# Delays between the attempts of a client

A configuration gives two delays in seconds and a factor of at least one.  What it describes keeps the later
waits within the second delay, but not the first wait; and a wait may be too long for a duration together
with its random part, and then the run is aborted.  The main statement says for every configuration that is
accepted how long the waits are, which of them are longer than the longest one, and which are never too long.
-/

namespace RequestHub

namespace Backoff

/-- What is true of the waits between the attempts that a backoff describes. -/
structure Delays (backoff : Backoff) : Prop where
  /-- Behind an attempt that is followed by another one, a run goes on with a pause. -/
  pauses : ∀ {σ α ε : Type} {isUseless : ε → Bool} {operation : Work σ (Except ε α)}
    {scope : Scope} {start here tried : σ × Session} {errors : List ε} {error : ε},
    Trying backoff isUseless operation scope start errors here →
    operation scope here.1 here.2 = (.done (.error error), tried) →
    isUseless error = false → errors.length + 1 < max 1 backoff.attempts →
    backoff.run isUseless operation scope start.1 start.2 =
      (pause (backoff.base errors.length) >>=
          fun _ => remaining backoff isUseless operation (errors.length + 1))
        scope tried.1 tried.2
  /-- A pause is a wait with its random part, unless their sum is too long. -/
  waits : ∀ {σ : Type} (index : Nat) (scope : Scope) (subject : σ) (session : Session),
    ∃ drawn, pause (backoff.base index) scope subject session =
      if backoff.base index + randomPart (backoff.base index) session ≤ Duration.greatest then
        Work.wait (backoff.base index + randomPart (backoff.base index) session) scope subject
          { session with drawn }
      else (.aborted, subject, { session with drawn })
  /-- Every wait is within the longest one, but the first wait only if it is so by itself. -/
  within_iff : ∀ index,
    backoff.base index ≤ backoff.longest ↔ (index = 0 → backoff.initial ≤ backoff.longest)
  /-- A wait is never too long together with its random part exactly if it is at most `steady`. -/
  fits_iff : ∀ index,
    (∀ session, backoff.base index + randomPart (backoff.base index) session ≤ Duration.greatest) ↔
      backoff.base index ≤ steady

theorem delays (backoff : Backoff) : backoff.Delays where
  pauses := by
    intro _ _ _ _ _ _ _ _ _ _ _ trying failed useful left
    rw [trying.run_eq, remaining_of_useful failed useful left]
  waits := fun index => pause_eq (backoff.base index)
  within_iff := by
    intro index
    cases index with
    | zero => exact ⟨fun within _ => within, fun within => within rfl⟩
    | succ index => exact iff_of_true (backoff.next_le_longest _) nofun
  fits_iff := fun index => forall_add_randomPart_le_iff (backoff.base index)

end Backoff

namespace Remote.RetrySettings

/-- A delay is accepted exactly if it is a duration. -/
@[simp]
theorem duration_eq_ok_iff (plugin field : String) (seconds : Real64) (length : Nat) :
    duration plugin field seconds = .ok length ↔
      Duration.Representable seconds ∧ length = Duration.nearest seconds := by
  rw [← Duration.ofSeconds_eq_ok_iff, duration]
  cases Duration.ofSeconds seconds with
  | ok other => simp [Except.mapError]
  | error refusal => exact iff_of_false nofun nofun

/-- What a description that is accepted describes. -/
def described (settings : RetrySettings) : Backoff where
  initial := Duration.nearest settings.initialDelay
  longest := Duration.nearest settings.maxDelay
  factor := settings.multiplier
  attempts := settings.maxRetries

/-- A description is accepted exactly if its factor is at least one and its delays are durations. -/
theorem toBackoff_eq_ok_iff (plugin : String) (settings : RetrySettings) (backoff : Backoff) :
    settings.toBackoff plugin = .ok backoff ↔
      (settings.multiplier.isFinite = true ∧ settings.multiplier.isOneOrMore = true) ∧
        Duration.Representable settings.initialDelay ∧
          Duration.Representable settings.maxDelay ∧ backoff = settings.described := by
  by_cases growing : settings.multiplier.isFinite = true ∧ settings.multiplier.isOneOrMore = true
  · have first : (!settings.multiplier.isFinite || !settings.multiplier.isOneOrMore) = false := by
      rw [growing.1, growing.2]
      rfl
    rw [toBackoff, first]
    simp only [Bool.false_eq_true, if_false, except_bind_eq_ok_iff, duration_eq_ok_iff]
    constructor
    · rintro ⟨_, ⟨initial, rfl⟩, _, ⟨longest, rfl⟩, made⟩
      exact ⟨growing, initial, longest, (Except.ok.inj made).symm⟩
    · rintro ⟨-, initial, longest, rfl⟩
      exact ⟨_, ⟨initial, rfl⟩, _, ⟨longest, rfl⟩, rfl⟩
  · have refused : (!settings.multiplier.isFinite || !settings.multiplier.isOneOrMore) = true := by
      rw [← Bool.not_and, Bool.not_eq_true', ← Bool.not_eq_true, Bool.and_eq_true]
      exact growing
    rw [toBackoff, refused]
    exact iff_of_false nofun fun accepted => growing accepted.1

/--
The waits of a client between its attempts.  The later ones are within the longest one, and the first one is
exactly if it is configured so; what is within the longest one is never too long together with its random
part if the longest one is at most `steady`, and for any longer wait a random part makes it too long.
-/
theorem toBackoff_delays
    (plugin : String) (settings : RetrySettings) (backoff : Backoff)
    (accepted : settings.toBackoff plugin = .ok backoff) :
    backoff = settings.described ∧ backoff.Delays ∧
      (backoff.initial ≤ backoff.longest → backoff.longest ≤ Backoff.steady →
        ∀ index, backoff.base index ≤ backoff.longest ∧
          ∀ session,
            backoff.base index + Backoff.randomPart (backoff.base index) session ≤
              Duration.greatest) := by
  obtain ⟨-, -, -, described⟩ := (toBackoff_eq_ok_iff ..).mp accepted
  have delays := backoff.delays
  refine ⟨described, delays, fun first longest index => ?_⟩
  have within : backoff.base index ≤ backoff.longest := (delays.within_iff index).mpr fun _ => first
  exact ⟨within, (delays.fits_iff index).mpr (Nat.le_trans within longest)⟩

/-- Half a second, ten seconds, and twice as long each time. -/
def doubling : RetrySettings where
  initialDelay := ⟨0x3FE0000000000000⟩
  maxDelay := ⟨0x4024000000000000⟩
  multiplier := ⟨0x4000000000000000⟩
  maxRetries := 5

theorem toBackoff_delays_doubling :
    ∃ backoff, doubling.toBackoff "remote_http" = .ok backoff ∧
      backoff = doubling.described ∧ backoff.Delays ∧
      backoff.initial ≤ backoff.longest ∧ backoff.longest ≤ Backoff.steady ∧
      ∀ index, backoff.base index ≤ backoff.longest ∧
        ∀ session,
          backoff.base index + Backoff.randomPart (backoff.base index) session ≤
            Duration.greatest := by
  have accepted : doubling.toBackoff "remote_http" = .ok doubling.described := by decide +kernel
  have first : doubling.described.initial ≤ doubling.described.longest := by decide
  have longest : doubling.described.longest ≤ Backoff.steady := by decide
  obtain ⟨described, delays, within⟩ := toBackoff_delays _ _ _ accepted
  exact ⟨_, accepted, described, delays, first, longest, within first longest⟩

/-- Twenty seconds, but ten seconds at most. -/
def abrupt : RetrySettings where
  initialDelay := ⟨0x4034000000000000⟩
  maxDelay := ⟨0x4024000000000000⟩
  multiplier := .one
  maxRetries := 2

/-- The greatest number of seconds that is a duration, but one second at most. -/
def vast : RetrySettings where
  initialDelay := ⟨0x43EFFFFFFFFFFFFF⟩
  maxDelay := .one
  multiplier := .one
  maxRetries := 2

/-- A session in which every random part is as long as it can be. -/
def sluggish : Session :=
  .start 0 default (fun _ => twoTo 64 - 1) default

/-- The first wait may be longer than the longest one, and it may be too long for a duration. -/
theorem first_delay_unlimited :
    (∃ backoff, abrupt.toBackoff "remote_http" = .ok backoff ∧
      backoff.longest = 10 * Duration.second ∧ backoff.base 0 = 20 * Duration.second ∧
      ∃ later,
        backoff.run (fun _ => false) (Backoff.recited fun _ => .error "down") default 0 sluggish =
          (.done (.error (.exhausted 2 "down")), 2, later) ∧
        20 * Duration.second ≤ later.now) ∧
    ∃ backoff, vast.toBackoff "remote_http" = .ok backoff ∧
      Duration.greatest < backoff.base 0 + Backoff.randomPart (backoff.base 0) sluggish ∧
      ∃ later,
        backoff.run (fun _ => false) (Backoff.recited fun _ => .error "down") default 0 sluggish =
          (.aborted, 1, later) := by
  refine ⟨⟨abrupt.described, rfl, by decide, by decide, _, rfl, ?_⟩,
    vast.described, rfl, by decide, _, rfl⟩
  decide

end Remote.RetrySettings

end RequestHub
