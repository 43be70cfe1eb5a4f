import RequestHub.Proofs.Json.Rereading

/-!
# Every value that is read fits

What the readers give has no more levels than they are asked for, its integers are of 64 bits, and the
members of its objects are in the order of their names.
-/

namespace RequestHub.Json

open Reader

variable {α β : Type} {reader : Reader α} {next : α → Reader β} {property : α → Prop}
  {result : β → Prop}

/-- Whatever a reader gives has a property. -/
def Reader.Yields (property : α → Prop) (reader : Reader α) : Prop :=
  ∀ cursor value reached, reader cursor = (.ok value, reached) → property value

namespace Reader

theorem Yields.bind
    (first : Yields property reader)
    (second : ∀ value, property value → Yields result (next value)) :
    Yields result (reader >>= next) := by
  intro cursor value reached read
  generalize here : reader cursor = outcome at read
  obtain ⟨fault | part, between⟩ := outcome
  · rw [bind_of_error here] at read
    cases read
  · rw [bind_of_ok here] at read
    exact second part (first cursor part between here) between value reached read

/-- What is read first does not count. -/
theorem Yields.behind (second : ∀ value, Yields result (next value)) : Yields result (reader >>= next) :=
  Yields.bind (fun _ _ _ _ => trivial) fun value (_ : True) => second value

theorem Yields.pure {value : α} (holds : property value) : Yields property (Pure.pure value) := by
  rintro cursor _ reached ⟨⟩
  exact holds

theorem Yields.of_fails (fails : Fails reader) : Yields property reader := by
  intro cursor value reached read
  obtain ⟨fault, ended, failed⟩ := fails cursor
  rw [failed] at read
  cases read

theorem Yields.map
    {change : α → β}
    (yields : Yields property reader)
    (holds : ∀ value, property value → result (change value)) :
    Yields result (do return change (← reader)) :=
  yields.bind fun value given => .pure (holds value given)

theorem Yields.placed (yields : Yields property reader) : Yields property (Reader.placed reader) := by
  intro cursor value reached read
  rw [Reader.placed] at read
  generalize here : reader cursor = outcome at read
  obtain ⟨fault | part, between⟩ := outcome
  · cases read
  · exact yields cursor value reached (here.trans read)

theorem Yields.thenEnd
    (yields : Yields property reader)
    (ending : Reader Unit) :
    Yields property (Reader.thenEnd reader ending) := by
  have kept : Yields (fun result : Except Fault α => ∀ value, result = .ok value → property value)
      (outcome reader) := by
    rintro cursor _ reached ⟨⟩ value same
    exact yields cursor value (reader cursor).2 (Prod.ext same rfl)
  refine kept.bind fun result holds => .behind fun ended => ?_
  match result, ended with
  | .error fault, _ => exact .of_fails fun cursor => ⟨_, _, rfl⟩
  | .ok _, .error fault => exact .of_fails fun cursor => ⟨_, _, rfl⟩
  | .ok value, .ok () => exact .pure (holds value rfl)

end Reader

/-! ## Numbers -/

theorem addDigits_le
    {limit number : Nat}
    (within : number ≤ limit)
    (count : Nat)
    (text : Bytes) :
    (addDigits limit number count text).1 ≤ limit := by
  induction text generalizing number count with
  | nil => exact within
  | cons byte text ih =>
      rw [addDigits]
      split
      · exact within
      · split
        · exact within
        · exact ih (by omega) _

theorem readDigits_yields
    {limit number : Nat}
    (within : number ≤ limit) :
    Yields (fun added : Nat × Nat => added.1 ≤ limit) (readDigits limit number) := by
  rintro cursor _ reached ⟨⟩
  exact addDigits_le within 0 cursor.rest

/-- An integer has 64 bits. -/
def Number.Fits (number : Number) : Prop :=
  ∀ value, number = .integer value → Number.holdsInteger value = true

theorem Number.fits_real (value : Real64) : Number.Fits (.real value) := by
  intro other same
  cases same

theorem readScaled_yields (negative : Bool) (digits : Nat) (power : Int) :
    Yields Number.Fits (readScaled negative digits power) := by
  rw [readScaled]
  split
  · exact .of_fails (fails_failHere _)
  · exact .pure (Number.fits_real _)

theorem readExponent_yields (negative : Bool) (digits : Nat) (power : Int) :
    Yields Number.Fits (readExponent negative digits power) := by
  have digital : ∀ downward, Yields Number.Fits (readExponentDigits negative digits power downward) := by
    intro downward
    refine .behind fun first => ?_
    split
    · exact .of_fails (fails_failHere _)
    · exact .of_fails (fails_failHere _)
    · refine .behind fun _ => .behind fun mark => ?_
      split
      · refine .behind fun _ => ?_
        split
        · exact .of_fails (fails_failHere _)
        · exact .behind fun _ => .pure (Number.fits_real _)
      · exact readScaled_yields _ _ _
  rw [readExponent_eq]
  refine .behind fun _ => .behind fun mark => ?_
  split
  · exact .behind fun _ => digital false
  · exact .behind fun _ => digital true
  · exact digital false

theorem readFraction_yields (negative : Bool) (digits : Nat) (power : Int) :
    Yields Number.Fits (readFraction negative digits power) := by
  have complete : ∀ extended count, Yields Number.Fits
      (do if isExponentMark (← peek) then readExponent negative extended (power - count)
          else readScaled negative extended (power - count)) := by
    refine fun extended count => .behind fun mark => ?_
    split
    · exact readExponent_yields _ _ _
    · exact readScaled_yields _ _ _
  refine .behind fun _ => .behind fun (extended, count) => .behind fun mark => ?_
  split
  · exact .behind fun _ => complete extended count
  · split
    · exact .of_fails fails_pointless
    · exact complete extended count

/-- Without a point and without an exponent, a number of so many digits is an integer of 64 bits. -/
theorem readAfterInteger_yields
    (negative : Bool)
    {digits : Nat}
    (kept : digits ≤ greatestDigits) :
    Yields Number.Fits (readAfterInteger negative digits) := by
  have top : twoTo 64 = 18446744073709551616 := by decide
  have bottom : twoTo 63 = 9223372036854775808 := by decide
  rw [greatestDigits] at kept
  refine .behind fun mark => ?_
  split
  · exact readFraction_yields _ _ _
  · split
    · exact readExponent_yields _ _ _
    · split
      · refine .pure fun value same => ?_
        obtain rfl := Number.integer.inj same
        simp only [Number.holdsInteger, Bool.and_eq_true, decide_eq_true_eq]
        omega
      · split
        · exact .pure (Number.fits_real _)
        · rename_i small
          refine .pure fun value same => ?_
          obtain rfl := Number.integer.inj same
          simp only [Bool.or_eq_true, decide_eq_true_eq, not_or, not_lt] at small
          simp only [Number.holdsInteger, Bool.and_eq_true, decide_eq_true_eq]
          omega

theorem digit?_le
    {byte : Option UInt8}
    {digit : Nat}
    (value : digit? byte = some digit) :
    digit ≤ greatestDigits := by
  have top : twoTo 64 = 18446744073709551616 := by decide
  rw [greatestDigits]
  cases byte with
  | none => cases value
  | some byte =>
      have small := byte.toNat_lt
      simp only [digit?, Option.ite_none_right_eq_some, Option.some.injEq] at value
      omega

theorem readNumber_yields (negative : Bool) : Yields Number.Fits (readNumber negative) := by
  refine .behind fun first => ?_
  split
  · exact .of_fails (fails_failHere _)
  · exact .of_fails (fails_failHere _)
  · refine .behind fun mark => ?_
    split
    · exact .of_fails (fails_failAhead _)
    · exact readAfterInteger_yields negative (Nat.zero_le _)
  · rename_i leading _ value
    refine (readDigits_yields (digit?_le value)).bind fun (digits, _) kept => .behind fun mark => ?_
    split
    · exact readAfterInteger_yields negative kept
    · refine .behind fun dropped => .behind fun mark => ?_
      split
      · exact readFraction_yields _ _ _
      · split
        · exact readExponent_yields _ _ _
        · exact readScaled_yields _ _ _

/-! ## Arrays and objects -/

theorem readItems_yields
    {item : Reader α}
    (each : Yields property item)
    (first : Bool)
    (fuel : Nat) :
    Yields (fun items => ∀ item ∈ items, property item) (readItems item first fuel) := by
  induction fuel generalizing first with
  | zero => exact .pure nofun
  | succ fuel ih =>
      refine .behind fun more => ?_
      split
      · exact each.bind fun value holds => (ih false).bind fun others all =>
          .pure (List.forall_mem_cons.mpr ⟨holds, all⟩)
      · exact .pure nofun

theorem readMembers_yields
    {value : Reader α}
    (each : Yields property value)
    (first : Bool)
    (fuel : Nat) :
    Yields (fun members => ∀ member ∈ members, property member.2) (readMembers value first fuel) := by
  induction fuel generalizing first with
  | zero => exact .pure nofun
  | succ fuel ih =>
      refine .behind fun more => ?_
      split
      · exact .behind fun _ => .behind fun name => .behind fun _ =>
          each.bind fun held holds => (ih false).bind fun others all =>
            .pure (List.forall_mem_cons.mpr ⟨holds, all⟩)
      · exact .pure nofun

theorem fits_number
    {number : Number}
    (fits : number.Fits)
    (depth : Nat) :
    Fits (depth + 1) (.number number) := by
  cases number with
  | integer value => exact fits value rfl
  | real _ => trivial

theorem fits_ofMembers
    {members : List (String × Json)}
    {depth : Nat}
    (room : depth ≠ 0)
    (each : ∀ member ∈ members, Fits depth member.2) :
    Fits (depth + 1) (.ofMembers members) := by
  refine ⟨Nat.pos_of_ne_zero room, Names.ordered_ofList members, fun member listed => ?_⟩
  exact each member (Names.mem_of_mem_ofList listed)

/-- Whatever is read as a value fits. -/
theorem readValue_yields (depth : Nat) : Yields (Fits depth) (readValue depth) := by
  induction depth with
  | zero => exact .of_fails (fails_failAhead _)
  | succ depth ih =>
      refine .placed (.behind fun first => ?_)
      split
      · exact .of_fails (fails_failAhead _)
      split
      · exact .behind fun _ => .behind fun _ => .pure trivial
      split
      · exact .behind fun _ => .behind fun _ => .pure trivial
      split
      · exact .behind fun _ => .behind fun _ => .pure trivial
      split
      · exact .behind fun _ => (readNumber_yields true).map fun number fits => fits_number fits depth
      split
      · exact (readNumber_yields false).map fun number fits => fits_number fits depth
      split
      · exact .behind fun _ => .behind fun _ => .pure trivial
      split
      · split
        · exact .of_fails (fails_failAhead _)
        · rename_i room
          have inside : Yields (fun items => ∀ item ∈ items, Fits depth item)
              (do readItems (readValue depth) true (← itemBound)) :=
            .behind fun fuel => readItems_yields ih true fuel
          exact .behind fun _ => (inside.thenEnd endItems).map fun items each =>
            ⟨Nat.pos_of_ne_zero room, each⟩
      split
      · split
        · exact .of_fails (fails_failAhead _)
        · rename_i room
          have inside : Yields (fun members => ∀ member ∈ members, Fits depth member.2)
              (do readMembers (readValue depth) true (← itemBound)) :=
            .behind fun fuel => readMembers_yields ih true fuel
          exact .behind fun _ => (inside.thenEnd endMembers).map fun members each =>
            fits_ofMembers room each
      · exact .of_fails (fails_failAhead _)

/-- What a whole text is read as is what its reader gives. -/
theorem Reader.Yields.readWhole
    (yields : Yields property reader)
    {text : Bytes}
    {value : α}
    (read : Json.readWhole reader text = .ok value) :
    property value := by
  generalize here : reader ⟨text, ⟨1, 0⟩⟩ = outcome
  obtain ⟨fault | part, between⟩ := outcome
  · rw [Json.readWhole, bind_of_error here] at read
    cases read
  · obtain ⟨left, behind, passed⟩ : ∃ left behind, skipBlanks between = (.ok left, behind) :=
      ⟨_, _, rfl⟩
    rw [Json.readWhole, bind_of_ok here, bind_of_ok passed] at read
    cases left with
    | none =>
        cases read
        exact yields _ _ _ here
    | some byte => cases read

/-- The value that a whole text spells fits. -/
theorem fits_of_ofBytes
    {text : Bytes}
    {value : Json}
    (read : ofBytes text = .ok value) :
    Fits greatestDepth value :=
  (readValue_yields greatestDepth).readWhole read

end RequestHub.Json
