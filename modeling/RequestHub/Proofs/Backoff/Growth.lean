import RequestHub.Backoff

/-!
# Growing waits

The waits between attempts grow by a factor, which may be any number at all: negative, infinite or
undefined.  A length that is no duration counts as the longest one, so that whatever the factor is, every
wait behind the first one stays within its limit.
-/

namespace RequestHub

namespace Duration

/-- The nanoseconds of a finite number of seconds, without its sign. -/
def nearest (seconds : Real64) : Nat :=
  match seconds.exponent with
  | .ofNat shift => seconds.mantissa * twoTo shift * second
  | .negSucc shift => roundDiv (seconds.mantissa * second) (twoTo (shift + 1))

/-- A number of seconds is a duration: it is finite, not below zero, and not too great. -/
structure Representable (seconds : Real64) : Prop where
  finite : seconds.isFinite = true
  notNegative : seconds.isNegative = true → seconds.isZero = true
  notTooGreat : nearest seconds ≤ greatest

theorem ofSeconds_eq_ok_iff (seconds : Real64) (duration : Nat) :
    ofSeconds seconds = .ok duration ↔ Representable seconds ∧ duration = nearest seconds := by
  have infinite_of : seconds.isUndefined = true → seconds.isFinite = false := by
    simp only [Real64.isUndefined, Real64.isFinite]
    grind
  -- The checks stand one behind the other, and each is one part of being representable.
  change (if seconds.isUndefined then .error .tooGreat
    else if seconds.isNegative && !seconds.isZero then .error .negative
    else if !seconds.isFinite then .error .tooGreat
    else if nearest seconds ≤ greatest then .ok (nearest seconds) else .error .tooGreat :
      Except Refusal Nat) = _ ↔ _
  constructor
  · intro made
    split at made
    · cases made
    split at made
    · cases made
    split at made
    · cases made
    split at made
    · cases made
      exact ⟨⟨by simp_all, by simp_all, by simp_all⟩, rfl⟩
    · cases made
  · rintro ⟨⟨finite, notNegative, notTooGreat⟩, rfl⟩
    rw [if_neg (by grind), if_neg (by grind), if_neg (by grind), if_pos notTooGreat]

end Duration

namespace Backoff

variable {backoff : Backoff}

/-- The number of seconds to which a wait grows. -/
def grown (backoff : Backoff) (delay : Nat) : Real64 :=
  .ofFloat ((Duration.toSeconds delay).toFloat * backoff.factor.toFloat)

/-- The wait behind an attempt without its random part; the attempts are counted from zero. -/
def base (backoff : Backoff) : Nat → Nat
  | 0 => backoff.initial
  | index + 1 => backoff.next (backoff.base index)

/-- A wait that grows to a duration is followed by that duration, up to the longest one. -/
theorem next_of_representable
    {delay : Nat} (representable : Duration.Representable (backoff.grown delay)) :
    backoff.next delay = min (Duration.nearest (backoff.grown delay)) backoff.longest := by
  have made := (Duration.ofSeconds_eq_ok_iff (backoff.grown delay) _).mpr ⟨representable, rfl⟩
  rw [next, Duration.scaled?]
  change min ((Duration.ofSeconds (backoff.grown delay)).toOption.getD _) _ = _
  rw [made]
  rfl

theorem next_of_not_representable
    {delay : Nat} (unrepresentable : ¬ Duration.Representable (backoff.grown delay)) :
    backoff.next delay = backoff.longest := by
  rw [next, Duration.scaled?]
  change min ((Duration.ofSeconds (backoff.grown delay)).toOption.getD _) _ = _
  -- Without a duration the longest wait stands in, and is compared with itself.
  cases made : Duration.ofSeconds (backoff.grown delay) with
  | ok duration =>
      exact absurd ((Duration.ofSeconds_eq_ok_iff ..).mp made).1 unrepresentable
  | error refusal => exact Nat.min_self _

theorem next_le_longest (backoff : Backoff) (delay : Nat) : backoff.next delay ≤ backoff.longest :=
  Nat.min_le_right ..

/-- No wait is longer than the first one or the longest of the later ones. -/
theorem base_le (backoff : Backoff) (index : Nat) :
    backoff.base index ≤ max backoff.initial backoff.longest := by
  cases index with
  | zero => exact Nat.le_max_left ..
  | succ index => exact Nat.le_trans (backoff.next_le_longest _) (Nat.le_max_right ..)

end Backoff

end RequestHub
