import RequestHub.Proofs.Backoff.Attempts

/-!
# Where a run of attempts stands

A run may be cut off by a context around it, and the sum of a wait and its random part may be too long for a
duration.  So besides the course of a run that is answered, this module follows any run: `Trying` says where
it stands before an attempt, with the errors that it has come through, and `Ends` how it ends with an
attempt.  Every run ends in one of these ways.
-/

namespace RequestHub

/-! ## Parts that are not done -/

/-- The outcome of a part that is not done, and that of the whole, whose value is of another kind. -/
inductive Outcome.Passes {α β : Type} : Outcome α → Outcome β → Prop where
  | failed (failure : Failure) : Passes (.failed failure) (.failed failure)
  | interrupted : Passes .interrupted .interrupted
  | aborted : Passes .aborted .aborted

theorem Outcome.done_or_passes {α : Type} (β : Type) (outcome : Outcome α) :
    (∃ value, outcome = .done value) ∨ ∃ whole : Outcome β, outcome.Passes whole := by
  cases outcome with
  | done value => exact .inl ⟨value, rfl⟩
  | failed failure => exact .inr ⟨_, .failed failure⟩
  | interrupted => exact .inr ⟨_, .interrupted⟩
  | aborted => exact .inr ⟨_, .aborted⟩

theorem Work.bind_of_passes
    {σ α β : Type} {work : Work σ α} {scope : Scope} {subject changed : σ} {session later : Session}
    {outcome : Outcome α} {whole : Outcome β}
    (ended : work scope subject session = (outcome, changed, later)) (passes : outcome.Passes whole)
    (next : α → Work σ β) :
    (work >>= next) scope subject session = (whole, changed, later) := by
  cases passes with
  | failed failure => exact bind_of_failed ended next
  | interrupted => exact bind_of_interrupted ended next
  | aborted => exact bind_of_aborted ended next

namespace Backoff

variable {σ α ε : Type}

/-! ## Pauses -/

/-- The longest wait that is a duration together with its random part, whatever this is. -/
def steady : Nat := Duration.greatest - (twoTo 64 - 1)

theorem add_greatestExtra_le_iff (delay : Nat) :
    delay + greatestExtra delay ≤ Duration.greatest ↔ delay ≤ steady := by
  have greatest_eq : Duration.greatest = 18446744073709551615999999999 := by decide
  have number_eq : twoTo 64 = 18446744073709551616 := by decide
  -- A wait that is longer than `steady` is long enough for a random part of all 64 bits.
  rw [steady, greatestExtra, greatest_eq, number_eq]
  omega

/-- A session may give any random part to a wait that is possible. -/
theorem exists_randomPart_eq {delay part : Nat} (possible : part ≤ greatestExtra delay) :
    ∃ session, randomPart delay session = part :=
  ⟨.start 0 default (fun _ => part) default, Nat.mod_eq_of_lt (Nat.lt_succ_of_le possible)⟩

theorem forall_add_randomPart_le_iff (delay : Nat) :
    (∀ session, delay + randomPart delay session ≤ Duration.greatest) ↔ delay ≤ steady := by
  rw [← add_greatestExtra_le_iff]
  constructor
  · intro fits
    obtain ⟨session, given⟩ := exists_randomPart_eq (Nat.le_refl (greatestExtra delay))
    rw [← given]
    exact fits session
  · exact fun fits session => Nat.le_trans (Nat.add_le_add_left (randomPart_le ..) _) fits

/-- A pause is a wait with a random part, or it is aborted because the sum is too long. -/
theorem pause_eq (delay : Nat) (scope : Scope) (subject : σ) (session : Session) :
    ∃ drawn, pause delay scope subject session =
      if delay + randomPart delay session ≤ Duration.greatest then
        Work.wait (delay + randomPart delay session) scope subject { session with drawn }
      else (.aborted, subject, { session with drawn }) := by
  obtain ⟨drawn, drew⟩ := extra_eq delay scope subject session
  refine ⟨drawn, ?_⟩
  rw [pause, Work.bind_of_done drew]
  split <;> rfl

/-! ## The attempts that are left -/

section

variable (backoff : Backoff) (isUseless : ε → Bool) (operation : Work σ (Except ε α))

/-- The part of a run behind a number of attempts and the pauses that follow them. -/
def remaining (index : Nat) : Work σ (Except (GivenUp ε) α) :=
  attempt backoff isUseless operation (index + 1) (backoff.base index)
    (max 1 backoff.attempts - (index + 1))

theorem run_eq_remaining : backoff.run isUseless operation = remaining backoff isUseless operation 0 := by
  have left : backoff.attempts - 1 = max 1 backoff.attempts - (0 + 1) := by omega
  rw [run, remaining, left]
  rfl

end

variable {backoff : Backoff} {isUseless : ε → Bool} {operation : Work σ (Except ε α)}
  {scope : Scope} {index : Nat} {here there tried : σ × Session}

theorem remaining_of_final
    {result : Except ε α}
    (ended : operation scope here.1 here.2 = (.done result, there))
    (final : settles isUseless result = true ∨ max 1 backoff.attempts ≤ index + 1) :
    remaining backoff isUseless operation index scope here.1 here.2 =
      (.done (verdict isUseless (index + 1) result), there) :=
  attempt_of_final ended (final.imp_right Nat.sub_eq_zero_of_le) _

theorem remaining_of_useful
    {error : ε}
    (failed : operation scope here.1 here.2 = (.done (.error error), tried))
    (useful : isUseless error = false)
    (left : index + 1 < max 1 backoff.attempts) :
    remaining backoff isUseless operation index scope here.1 here.2 =
      (pause (backoff.base index) >>= fun _ => remaining backoff isUseless operation (index + 1))
        scope tried.1 tried.2 := by
  have others : max 1 backoff.attempts - (index + 1) =
      max 1 backoff.attempts - (index + 1 + 1) + 1 := by omega
  rw [remaining, others, attempt_of_useful failed useful]
  rfl

theorem remaining_of_undone
    {outcome : Outcome (Except ε α)} {whole : Outcome (Except (GivenUp ε) α)}
    (ended : operation scope here.1 here.2 = (outcome, there))
    (passes : outcome.Passes whole) :
    remaining backoff isUseless operation index scope here.1 here.2 = (whole, there) := by
  rw [remaining]
  cases max 1 backoff.attempts - (index + 1) with
  | zero => exact Work.bind_of_passes ended passes _
  | succ more => exact Work.bind_of_passes ended passes _

/-! ## Where a run stands, and how it ends -/

section

variable (backoff : Backoff) (isUseless : ε → Bool) (operation : Work σ (Except ε α)) (scope : Scope)

/-- A run stands before an attempt, behind attempts that failed with the given errors. -/
inductive Trying (start : σ × Session) : List ε → σ × Session → Prop where
  | first : Trying start [] start
  | again {errors : List ε} {error : ε} {here tried rested : σ × Session}
      (before : Trying start errors here)
      (failed : operation scope here.1 here.2 = (.done (.error error), tried))
      (useful : isUseless error = false)
      (left : errors.length + 1 < max 1 backoff.attempts)
      (paused : pause (backoff.base errors.length) scope tried.1 tried.2 = (.done (), rested)) :
      Trying start (errors ++ [error]) rested

/-- How a run ends that stands before an attempt, behind a number of others. -/
inductive Ends (here : σ × Session) (index : Nat) :
    Outcome (Except (GivenUp ε) α) × σ × Session → Prop where
  /-- There is no attempt behind this one, because of its result or because of its number. -/
  | answered {result : Except ε α} {there : σ × Session}
      (ended : operation scope here.1 here.2 = (.done result, there))
      (final : settles isUseless result = true ∨ max 1 backoff.attempts ≤ index + 1) :
      Ends here index (.done (verdict isUseless (index + 1) result), there)
  /-- There would be another attempt, but the pause before it is not done. -/
  | restless {error : ε} {tried there : σ × Session} {outcome : Outcome Unit}
      {whole : Outcome (Except (GivenUp ε) α)}
      (failed : operation scope here.1 here.2 = (.done (.error error), tried))
      (useful : isUseless error = false)
      (left : index + 1 < max 1 backoff.attempts)
      (paused : pause (backoff.base index) scope tried.1 tried.2 = (outcome, there))
      (passes : outcome.Passes whole) :
      Ends here index (whole, there)
  /-- The attempt itself is not done. -/
  | undone {outcome : Outcome (Except ε α)} {there : σ × Session}
      {whole : Outcome (Except (GivenUp ε) α)}
      (ended : operation scope here.1 here.2 = (outcome, there))
      (passes : outcome.Passes whole) :
      Ends here index (whole, there)

end

variable {start : σ × Session} {errors : List ε}

/-- There are fewer errors than attempts. -/
theorem Trying.length_lt (trying : Trying backoff isUseless operation scope start errors here) :
    errors.length < max 1 backoff.attempts := by
  cases trying with
  | first => exact Nat.lt_of_lt_of_le Nat.zero_lt_one (Nat.le_max_left ..)
  | again _ _ _ left _ =>
      rw [List.length_append]
      exact left

/-- The run is what remains where it stands. -/
theorem Trying.run_eq (trying : Trying backoff isUseless operation scope start errors here) :
    backoff.run isUseless operation scope start.1 start.2 =
      remaining backoff isUseless operation errors.length scope here.1 here.2 := by
  induction trying with
  | first => rw [run_eq_remaining, List.length_nil]
  | again _ failed useful left paused ih =>
      rw [ih, remaining_of_useful failed useful left, Work.bind_of_done paused, List.length_append]
      rfl

/-- An attempt ends the run, or the run stands before the next one. -/
theorem Trying.step (trying : Trying backoff isUseless operation scope start errors here) :
    Ends backoff isUseless operation scope here errors.length
        (remaining backoff isUseless operation errors.length scope here.1 here.2) ∨
      ∃ error rested, Trying backoff isUseless operation scope start (errors ++ [error]) rested := by
  obtain ⟨result, done⟩ | ⟨whole, passes⟩ :=
    Outcome.done_or_passes (Except (GivenUp ε) α) (operation scope here.1 here.2).1
  · have ended : operation scope here.1 here.2 = (.done result, _) := Prod.ext done rfl
    by_cases final : settles isUseless result = true ∨ max 1 backoff.attempts ≤ errors.length + 1
    · left
      rw [remaining_of_final ended final]
      exact .answered ended final
    · obtain ⟨unsettled, some_left⟩ := not_or.mp final
      have others : errors.length + 1 < max 1 backoff.attempts := Nat.lt_of_not_le some_left
      cases result with
      | ok value => exact absurd rfl unsettled
      | error error =>
          have useful : isUseless error = false := Bool.eq_false_iff.mpr unsettled
          rw [remaining_of_useful ended useful others]
          obtain ⟨⟨⟩, done⟩ | ⟨whole, passes⟩ :=
            Outcome.done_or_passes (Except (GivenUp ε) α)
              (pause (backoff.base errors.length) scope (operation scope here.1 here.2).2.1
                (operation scope here.1 here.2).2.2).1
          · right
            have paused : pause (backoff.base errors.length) scope _ _ = (.done (), _) :=
              Prod.ext done rfl
            exact ⟨error, _, trying.again ended useful others paused⟩
          · left
            rw [Work.bind_of_passes rfl passes]
            exact .restless ended useful others rfl passes
  · left
    rw [remaining_of_undone rfl passes]
    exact .undone rfl passes

/-- From where a run stands it comes to an end, by induction on the number of attempts that are left. -/
theorem Trying.exists_ends
    {left : Nat} (trying : Trying backoff isUseless operation scope start errors here)
    (enough : max 1 backoff.attempts ≤ errors.length + left) :
    ∃ others last,
      Trying backoff isUseless operation scope start others last ∧
        Ends backoff isUseless operation scope last others.length
          (backoff.run isUseless operation scope start.1 start.2) := by
  induction left generalizing errors here with
  | zero => exact absurd trying.length_lt (Nat.not_lt_of_le enough)
  | succ left ih =>
      obtain ends | ⟨error, rested, further⟩ := trying.step
      · rw [← trying.run_eq] at ends
        exact ⟨errors, here, trying, ends⟩
      · refine ih further ?_
        rw [List.length_append, List.length_singleton, Nat.add_assoc, Nat.add_comm 1 left]
        exact enough

/-- Every run comes through some attempts to an end. -/
theorem exists_ends
    (backoff : Backoff) (isUseless : ε → Bool) (operation : Work σ (Except ε α)) (scope : Scope)
    (start : σ × Session) :
    ∃ errors last,
      Trying backoff isUseless operation scope start errors last ∧
        Ends backoff isUseless operation scope last errors.length
          (backoff.run isUseless operation scope start.1 start.2) :=
  Trying.first.exists_ends (Nat.le_add_left ..)

end Backoff

end RequestHub
