import Mathlib.Data.List.Infix
import Mathlib.Order.Bounds.Basic
import RequestHub.Proofs.Backoff.Growth
import RequestHub.Proofs.Deadline.Cutting

/-!
# Attempts and the sleeps between them

An operation that is tried again and again gives a sequence of results, and the attempts are a beginning of
it.  `Course` describes a run as it happens: attempts with one sleep between any two of them and none behind
the last.  `Retried` says how many attempts there are, how long the sleeps between them last, and what is
answered; the main statement is that every run is retried in this sense, whatever the operation would give
and whatever the random parts of the sleeps are.
-/

namespace RequestHub

namespace Backoff

variable {σ α ε : Type}

/-! ## Marks -/

@[simp]
theorem occursIn_iff (part chars : List Char) :
    occursIn part chars = true ↔ part <:+: chars := by
  induction chars with
  | nil => simp [occursIn]
  | cons char chars ih => simp [occursIn, ih, List.infix_cons_iff]

/-- A message is marked if the mark occurs anywhere in it. -/
theorem isMarked_eq (message : String) :
    isMarked message = decide (marker.toList <:+: message.toList) := by
  rw [Bool.eq_iff_iff, decide_eq_true_iff]
  exact occursIn_iff ..

@[simp]
theorem isMarked_mark (message : String) : isMarked (mark message) = true := by
  rw [isMarked_eq, decide_eq_true_iff, mark, String.toList_append, String.toList_append,
    List.append_assoc]
  exact (List.prefix_append ..).isInfix

/-! ## The course of a run -/

/-- A result after which there is no other attempt, whatever their number. -/
def settles (isUseless : ε → Bool) : Except ε α → Bool
  | .ok _ => true
  | .error error => isUseless error

/-- What is answered if the attempt with a number is the last one. -/
def verdict (isUseless : ε → Bool) (number : Nat) : Except ε α → Except (GivenUp ε) α
  | .ok value => .ok value
  | .error error =>
      if isUseless error then .error (.useless error) else .error (.exhausted number error)

theorem verdict_of_useless
    {isUseless : ε → Bool} {error : ε} (useless : isUseless error = true) (number : Nat) :
    verdict isUseless number (.error error : Except ε α) = .error (.useless error) :=
  if_pos useless

/--
An operation whose attempts give the results of a sequence, from the first one on.  The subject tells how
often the operation has been attempted; what else an attempt does, and how long it takes, is left open.
-/
def Scripted
    (operation : Work σ (Except ε α)) (scope : Scope) (results : Nat → Except ε α)
    (attempted : σ → Nat) : Prop :=
  ∀ here : σ × Session, ∃ there : σ × Session,
    operation scope here.1 here.2 = (.done (results (attempted here.1 + 1)), there) ∧
      attempted there.1 = attempted here.1 + 1

/-- A sleep of the given length; a random number may be drawn before it. -/
def Sleeps (scope : Scope) (length : Nat) (here there : σ × Session) : Prop :=
  ∃ drawn, Work.wait length scope here.1 { here.2 with drawn } = (.done (), there)

/-- Attempts with their results and, between any two of them, one sleep with its length. -/
inductive Course (operation : Work σ (Except ε α)) (scope : Scope) :
    σ × Session → List (Except ε α) → List Nat → σ × Session → Prop where
  | last {here there : σ × Session} {result : Except ε α}
      (ended : operation scope here.1 here.2 = (.done result, there)) :
      Course operation scope here [result] [] there
  | again {here tried rested there : σ × Session} {result : Except ε α}
      {results : List (Except ε α)} {length : Nat} {lengths : List Nat}
      (ended : operation scope here.1 here.2 = (.done result, tried))
      (slept : Sleeps scope length tried rested)
      (others : Course operation scope rested results lengths there) :
      Course operation scope here (result :: results) (length :: lengths) there

theorem Course.length_eq
    {operation : Work σ (Except ε α)} {scope : Scope} {here there : σ × Session}
    {results : List (Except ε α)} {lengths : List Nat}
    (course : Course operation scope here results lengths there) :
    results.length = lengths.length + 1 := by
  induction course with
  | last => rfl
  | again _ _ _ ih => simp [ih]

/-- The length of a sleep is that of the wait, with a random part of at most half of it. -/
def Within (delay length : Nat) : Prop :=
  delay ≤ length ∧ length ≤ delay + delay / 2

variable {backoff : Backoff} {isUseless : ε → Bool} {operation : Work σ (Except ε α)}
  {scope : Scope} {results : Nat → Except ε α} {attempted : σ → Nat}

/-- The random part that a session gives to a wait. -/
def randomPart (delay : Nat) (session : Session) : Nat :=
  session.chance session.drawn % (greatestExtra delay + 1)

theorem randomPart_le (delay : Nat) (session : Session) :
    randomPart delay session ≤ greatestExtra delay :=
  Nat.le_of_lt_succ (Nat.mod_lt _ (Nat.succ_pos _))

/-- The random part of a wait is drawn if there can be one, and the session notes that. -/
theorem extra_eq (delay : Nat) (scope : Scope) (subject : σ) (session : Session) :
    ∃ drawn, extra delay scope subject session =
      (.done (randomPart delay session), subject, { session with drawn }) := by
  unfold extra randomPart
  split
  · rename_i none_possible
    rw [none_possible, Nat.mod_one]
    exact ⟨session.drawn, rfl⟩
  · exact ⟨session.drawn + 1, rfl⟩

/-- A pause that no random part makes too long is one sleep, and leaves the subject. -/
theorem pause_sleeps
    {delay : Nat} (unbounded : scope.bounds = [])
    (fits : delay + greatestExtra delay ≤ Duration.greatest) (here : σ × Session) :
    ∃ length there, Within delay length ∧ Sleeps scope length here there ∧
      there.1 = here.1 ∧ pause delay scope here.1 here.2 = (.done (), there) := by
  obtain ⟨drawn, drew⟩ := extra_eq delay scope here.1 here.2
  have possible : randomPart delay here.2 ≤ greatestExtra delay := randomPart_le ..
  have short : randomPart delay here.2 ≤ delay / 2 := Nat.le_trans possible (Nat.min_le_left ..)
  have endless : Work.cutOff? scope.bounds { here.2 with drawn } = none := by
    rw [unbounded]
    rfl
  have waited := Work.wait_eq_of_endless endless (delay + randomPart delay here.2) here.1
  refine ⟨delay + randomPart delay here.2, _,
    ⟨Nat.le_add_right .., Nat.add_le_add_left short _⟩, ⟨drawn, waited⟩, rfl, ?_⟩
  rw [pause, Work.bind_of_done drew, if_pos (Nat.le_trans (Nat.add_le_add_left possible _) fits)]
  exact waited

/-- The last attempt that is allowed ends a run with any result, another one with a result that settles. -/
theorem attempt_of_final
    {number more : Nat} {here there : σ × Session} {result : Except ε α}
    (ended : operation scope here.1 here.2 = (.done result, there))
    (final : settles isUseless result = true ∨ more = 0)
    (delay : Nat) :
    attempt backoff isUseless operation number delay more scope here.1 here.2 =
      (.done (verdict isUseless number result), there) := by
  cases more with
  | zero =>
      rw [attempt, Work.bind_of_done ended]
      cases result with
      | ok value => rfl
      | error error =>
          simp only [verdict]
          split <;> rfl
  | succ more =>
      have settled : settles isUseless result = true := final.resolve_right (Nat.succ_ne_zero more)
      rw [attempt, Work.bind_of_done ended]
      cases result with
      | ok value => rfl
      | error error =>
          have useless : isUseless error = true := settled
          rw [verdict_of_useless useless]
          simp only [useless, if_true]
          rfl

/-- An attempt that fails with an error that is worth another one is followed by a pause. -/
theorem attempt_of_useful
    {number delay more : Nat} {here tried : σ × Session} {error : ε}
    (failed : operation scope here.1 here.2 = (.done (.error error), tried))
    (useful : isUseless error = false) :
    attempt backoff isUseless operation number delay (more + 1) scope here.1 here.2 =
      (pause delay >>= fun _ =>
        attempt backoff isUseless operation (number + 1) (backoff.next delay) more)
          scope tried.1 tried.2 := by
  rw [attempt, Work.bind_of_done failed]
  simp only [useful, Bool.false_eq_true, if_false]

/-- What is true of the attempts from one with a number on, if there may be some more behind it. -/
structure RetriedFrom
    (backoff : Backoff) (isUseless : ε → Bool) (operation : Work σ (Except ε α)) (scope : Scope)
    (results : Nat → Except ε α) (attempted : σ → Nat) (first more : Nat) (here : σ × Session)
    (count : Nat) (lengths : List Nat) (there : σ × Session) : Prop where
  least : IsLeast
    {number | first < number ∧
      (settles isUseless (results number) = true ∨ first + 1 + more ≤ number)} count
  course : Course operation scope here ((List.range' (first + 1) (count - first)).map results)
    lengths there
  attempted : attempted there.1 = count
  answered : attempt backoff isUseless operation (first + 1) (backoff.base first) more scope
    here.1 here.2 = (.done (verdict isUseless count (results count)), there)
  within : ∀ {index length}, lengths[index]? = some length →
    Within (backoff.base (first + index)) length

/-- An attempt behind which there is no other. -/
theorem RetriedFrom.last
    {first more : Nat} {here there : σ × Session}
    (ended : operation scope here.1 here.2 = (.done (results (first + 1)), there))
    (counted : attempted there.1 = first + 1)
    (final : settles isUseless (results (first + 1)) = true ∨ more = 0) :
    RetriedFrom backoff isUseless operation scope results attempted first more here (first + 1) []
      there where
  least := by
    refine ⟨⟨Nat.lt_succ_self _, final.imp_right fun none_left => by omega⟩, ?_⟩
    rintro number ⟨behind, -⟩
    exact behind
  course := by
    rw [Nat.add_sub_cancel_left]
    exact .last ended
  attempted := counted
  answered := attempt_of_final ended final _
  within found := by cases found

/-- An attempt behind which others follow, with a sleep before them. -/
theorem RetriedFrom.again
    {first more count length : Nat} {lengths : List Nat} {here tried rested there : σ × Session}
    (ended : operation scope here.1 here.2 = (.done (results (first + 1)), tried))
    (unsettled : settles isUseless (results (first + 1)) = false)
    (within : Within (backoff.base first) length)
    (slept : Sleeps scope length tried rested)
    (paused : pause (backoff.base first) scope tried.1 tried.2 = (.done (), rested))
    (others : RetriedFrom backoff isUseless operation scope results attempted (first + 1) more rested
      count lengths there) :
    RetriedFrom backoff isUseless operation scope results attempted first (more + 1) here count
      (length :: lengths) there where
  least := by
    obtain ⟨⟨behind, final⟩, below⟩ := others.least
    refine ⟨⟨by omega, final.imp_right fun ended => by omega⟩, ?_⟩
    rintro number ⟨after, final⟩
    refine below ⟨?_, final.imp_right fun ended => by omega⟩
    -- The first attempt does not settle anything and is not the last one, so it is not the least.
    refine Nat.lt_of_le_of_ne after ?_
    rintro rfl
    rcases final with settled | ended
    · exact Bool.false_ne_true (unsettled.symm.trans settled)
    · omega
  course := by
    have behind := others.least.1.1
    have split : List.range' (first + 1) (count - first) =
        (first + 1) :: List.range' (first + 2) (count - (first + 1)) := by
      rw [show count - first = count - (first + 1) + 1 by omega, List.range'_succ]
    rw [split, List.map_cons]
    exact .again ended slept others.course
  attempted := others.attempted
  answered := by
    cases given : results (first + 1) with
    | ok value =>
        rw [given] at unsettled
        cases unsettled
    | error error =>
        rw [given] at ended unsettled
        rw [attempt_of_useful ended unsettled]
        exact (Work.bind_of_done paused _).trans others.answered
  within := by
    intro index length found
    cases index with
    | zero =>
        cases found
        exact within
    | succ index =>
        have moved := others.within found
        rwa [Nat.add_assoc, Nat.add_comm 1] at moved

/-- No attempt from one behind the first to another settles the matter. -/
def Unsettled (isUseless : ε → Bool) (results : Nat → Except ε α) (first last : Nat) : Prop :=
  ∀ number, first < number → number ≤ last → settles isUseless (results number) = false

theorem Unsettled.cons
    {first last : Nat} (unsettled : settles isUseless (results (first + 1)) = false)
    (others : Unsettled isUseless results (first + 1) last) :
    Unsettled isUseless results first last := by
  intro number behind before
  rcases Nat.lt_or_eq_of_le (Nat.succ_le_of_lt behind) with later | rfl
  · exact others number later before
  · exact unsettled

/--
Of the waits behind an attempt and some more, none to which a run comes can be too long for a duration,
whatever its random part is.
-/
def FitsFrom (backoff : Backoff) (isUseless : ε → Bool) (results : Nat → Except ε α)
    (first more : Nat) : Prop :=
  ∀ index, first ≤ index → index < first + more →
    Unsettled isUseless results first (index + 1) →
      backoff.base index + greatestExtra (backoff.base index) ≤ Duration.greatest

theorem FitsFrom.first
    {first more : Nat} (fits : FitsFrom backoff isUseless results first (more + 1))
    (unsettled : settles isUseless (results (first + 1)) = false) :
    backoff.base first + greatestExtra (backoff.base first) ≤ Duration.greatest := by
  refine fits first (Nat.le_refl _) (by omega) (.cons unsettled ?_)
  intro number behind before
  exact absurd before (Nat.not_le_of_lt behind)

theorem FitsFrom.rest
    {first more : Nat} (fits : FitsFrom backoff isUseless results first (more + 1))
    (unsettled : settles isUseless (results (first + 1)) = false) :
    FitsFrom backoff isUseless results (first + 1) more :=
  fun index behind before others => fits index (by omega) (by omega) (.cons unsettled others)

/-- The attempts from any one on, by induction on the number of those that may follow it. -/
theorem retriedFrom
    (unbounded : scope.bounds = [])
    (scripted : Scripted operation scope results attempted)
    (more : Nat) (here : σ × Session)
    (fits : FitsFrom backoff isUseless results (attempted here.1) more) :
    ∃ count lengths there,
      RetriedFrom backoff isUseless operation scope results attempted (attempted here.1) more here
        count lengths there := by
  induction more generalizing here with
  | zero =>
      obtain ⟨there, ended, counted⟩ := scripted here
      exact ⟨_, _, there, .last ended counted (Or.inr rfl)⟩
  | succ more ih =>
      obtain ⟨tried, ended, counted⟩ := scripted here
      cases settled : settles isUseless (results (attempted here.1 + 1)) with
      | true => exact ⟨_, _, tried, .last ended counted (Or.inl settled)⟩
      | false =>
          obtain ⟨length, rested, within, slept, left, paused⟩ :=
            pause_sleeps unbounded (fits.first settled) tried
          -- The pause leaves the count alone, so the others go on from the number behind this one.
          have moved : attempted rested.1 = attempted here.1 + 1 := by rw [left, counted]
          obtain ⟨count, lengths, there, others⟩ := ih rested (moved ▸ fits.rest settled)
          rw [moved] at others
          exact ⟨count, _, there, .again ended settled within slept paused others⟩

/-! ## Whole runs -/

/-- What is true of a run with so many attempts and with sleeps of the given lengths between them. -/
structure Retried
    (backoff : Backoff) (isUseless : ε → Bool) (operation : Work σ (Except ε α)) (scope : Scope)
    (results : Nat → Except ε α) (attempted : σ → Nat) (here : σ × Session)
    (count : Nat) (lengths : List Nat) (there : σ × Session) : Prop where
  /-- The last attempt is the first one that settles the matter, unless there are too many before. -/
  least : IsLeast
    {number | 0 < number ∧
      (settles isUseless (results number) = true ∨ max 1 backoff.attempts ≤ number)} count
  /-- The attempts give the results from the first to the last, and there is a sleep between any two. -/
  course : Course operation scope here ((List.range' 1 count).map results) lengths there
  attempted : attempted there.1 = count
  answered : backoff.run isUseless operation scope here.1 here.2 =
    (.done (verdict isUseless count (results count)), there)
  one_less : lengths.length = count - 1
  within : ∀ {index length}, lengths[index]? = some length → Within (backoff.base index) length
  first_base : backoff.base 0 = backoff.initial
  /-- A wait that grows to a duration is followed by that duration, up to the longest one. -/
  grows : ∀ index, Duration.Representable (backoff.grown (backoff.base index)) →
    backoff.base (index + 1) =
      min (Duration.nearest (backoff.grown (backoff.base index))) backoff.longest
  /-- A wait that grows to something else is followed by the longest one. -/
  capped : ∀ index, ¬ Duration.Representable (backoff.grown (backoff.base index)) →
    backoff.base (index + 1) = backoff.longest

/--
No sleep of a run is too long for a duration, whatever its random part is.  A run sleeps behind a failure
that is not useless, if all before it were such failures too and if attempts are left.
-/
def Fits (backoff : Backoff) (isUseless : ε → Bool) (results : Nat → Except ε α) : Prop :=
  ∀ index, index + 1 < max 1 backoff.attempts → Unsettled isUseless results 0 (index + 1) →
    backoff.base index + greatestExtra (backoff.base index) ≤ Duration.greatest

/-- A configuration with short delays has no sleep that is too long. -/
theorem Fits.of_limits
    (limits : max backoff.initial backoff.longest + max backoff.initial backoff.longest / 2 ≤
      Duration.greatest) :
    backoff.Fits isUseless results := by
  intro index _ _
  have bounded := backoff.base_le index
  have half : greatestExtra (backoff.base index) ≤ backoff.base index / 2 := Nat.min_le_left ..
  omega

/--
An operation is attempted until it succeeds, another attempt is useless, or all attempts have been made,
with one sleep between any two attempts; and an operation whose errors may be marked is retried in the same
way, where an error is useless to repeat if the mark occurs in its message.
-/
theorem run_retries
    (backoff : Backoff) (isUseless : ε → Bool) (words : ε → String)
    (operation : Work σ (Except ε α)) (results : Nat → Except ε α) (attempted : σ → Nat)
    (scope : Scope) (here : σ × Session)
    (unbounded : scope.bounds = []) (fits : backoff.Fits isUseless results)
    (scripted : Scripted operation scope results attempted)
    (fresh : attempted here.1 = 0) :
    (∃ count lengths there,
        Retried backoff isUseless operation scope results attempted here count lengths there) ∧
      backoff.runMarked words operation =
        backoff.run (fun error => decide (marker.toList <:+: (words error).toList)) operation := by
  constructor
  · have fitsFrom : FitsFrom backoff isUseless results (attempted here.1) (backoff.attempts - 1) := by
      rw [fresh]
      exact fun index _ before unsettled => fits index (by omega) unsettled
    obtain ⟨count, lengths, there, retried⟩ : ∃ count lengths there,
        RetriedFrom backoff isUseless operation scope results attempted (attempted here.1)
          (backoff.attempts - 1) here count lengths there :=
      retriedFrom unbounded scripted _ here fitsFrom
    rw [fresh] at retried
    have allowed : 0 + 1 + (backoff.attempts - 1) = max 1 backoff.attempts := by omega
    have least := retried.least
    rw [allowed] at least
    have course := retried.course
    rw [Nat.sub_zero] at course
    exact ⟨count, lengths, there, {
      least
      course
      attempted := retried.attempted
      answered := retried.answered
      one_less := by
        have counted := course.length_eq
        rw [List.length_map, List.length_range'] at counted
        omega
      within := by
        intro index length found
        simpa using retried.within found
      first_base := rfl
      grows := fun index => next_of_representable
      capped := fun index => next_of_not_representable }⟩
  · have classified : (fun error => isMarked (words error)) =
        fun error => decide (marker.toList <:+: (words error).toList) :=
      funext fun error => isMarked_eq (words error)
    rw [runMarked, classified]

/-- An operation that notes how often it is attempted, and answers as a sequence says. -/
def recited (results : Nat → Except String Nat) : Work Nat (Except String Nat) := do
  let count ← Work.subject
  Work.modify (· + 1)
  return results (count + 1)

/-- A service that is busy first, and is not there any more at the second attempt. -/
def closing : Nat → Except String Nat
  | 1 => .error "busy"
  | _ => .error (mark "closed")

/-- A session in which every wait is seven milliseconds longer than it has to be. -/
def evening : Session :=
  .start 0 (fun _ => default) (fun _ => 7 * Duration.milli) default

/-- An error that is marked ends the attempts even if others are left. -/
theorem run_retries_closing :
    (default : Scope).bounds = [] ∧ standard.Fits isMarked closing ∧
      Scripted (recited closing) default closing id ∧
      ∃ lengths there,
        Retried standard isMarked (recited closing) default closing id (0, evening) 2 lengths there ∧
          standard.runMarked id (recited closing) default 0 evening =
            (.done (.error (.useless (mark "closed"))), there) := by
  have fits : standard.Fits isMarked closing := Fits.of_limits (by decide)
  have scripted : Scripted (recited closing) default closing id :=
    fun here => ⟨(here.1 + 1, here.2), rfl, rfl⟩
  obtain ⟨⟨count, lengths, there, retried⟩, -⟩ :=
    run_retries standard isMarked id (recited closing) closing id default (0, evening)
      rfl fits scripted rfl
  have unmarked : settles isMarked (closing 1) = false := by decide
  have marked : settles isMarked (closing 2) = true := isMarked_mark "closed"
  have two : count = 2 := by
    refine retried.least.unique ⟨⟨by decide, Or.inl marked⟩, ?_⟩
    rintro number ⟨positive, settled⟩
    rcases Nat.lt_or_ge number 2 with early | late
    · obtain rfl : number = 1 := by omega
      rcases settled with impossible | many
      · exact absurd (unmarked.symm.trans impossible) Bool.false_ne_true
      · exact absurd many (by decide)
    · exact late
  subst two
  refine ⟨rfl, fits, scripted, lengths, there, retried, ?_⟩
  have last : closing 2 = .error (mark "closed") := rfl
  have answered := retried.answered
  rwa [last, verdict_of_useless (isMarked_mark "closed")] at answered

end Backoff

end RequestHub
