import RequestHub.Proofs.Json.Numbers

/-!
# What stands behind a number does not count

A number has no mark that would tell where it ends: its readers go on until something stands there that does
not belong to it.  `Local` compares what is read from a text alone with what is read from it in front of a
comma or a closing mark.  Nothing that stands there belongs to a number, so either both fail, or both give
the same value and leave the same part of the text.
-/

namespace RequestHub.Json

open Reader

/-- A byte that is neither a blank nor a mark. -/
def Loose (byte : UInt8) : Prop :=
  isSpace byte = false ∧ byte ∉ [0x22, 0x2C, 0x3A, 0x5B, 0x5D, 0x7B, 0x7D]

instance (byte : UInt8) : Decidable (Loose byte) :=
  inferInstanceAs (Decidable (_ ∧ _))

/-- A text without blanks and marks. -/
def AllLoose (text : Bytes) : Prop :=
  ∀ byte ∈ text, Loose byte

-- The bytes of the text are looked at, and not all bytes that there are.
instance (text : Bytes) : Decidable (AllLoose text) :=
  List.decidableBAll Loose text

/-- What a text yields alone, and what it yields with something behind it. -/
inductive Parallel {α : Type} (rest : Bytes) :
    Except Fault α × Cursor → Except Fault α × Cursor → Prop where
  | ok {value : α} {left : Bytes} {position place : Position} (loose : AllLoose left) :
      Parallel rest (.ok value, ⟨left, position⟩) (.ok value, ⟨left ++ rest, place⟩)
  | error {fault other : Fault} {reached cursor : Cursor} :
      Parallel rest (.error fault, reached) (.error other, cursor)

namespace Reader

variable {α β : Type} {front : Bytes → Prop} {reader other : Reader α} {step following : α → Reader β}
  {byte : UInt8}

/-- A reader does with a text of a kind what another one does with the text and what stands behind it. -/
def Local (front : Bytes → Prop) (reader other : Reader α) : Prop :=
  ∀ text rest position place, front text → AllLoose text → Delimited rest →
    Parallel rest (reader ⟨text, position⟩) (other ⟨text ++ rest, place⟩)

/-- A reader does with a text the same whether or not something stands behind it. -/
abbrev Steady (front : Bytes → Prop) (reader : Reader α) : Prop :=
  Local front reader reader

/-- No text at all. -/
def Nothing : Bytes → Prop :=
  fun text => text = []

/-- A reader that fails wherever it is. -/
def Fails (reader : Reader α) : Prop :=
  ∀ cursor, ∃ fault reached, reader cursor = (.error fault, reached)

theorem fails_failHere (cause : Malformed) : Fails (failHere cause : Reader α) :=
  fun _ => ⟨_, _, rfl⟩

theorem fails_failAhead (cause : Malformed) : Fails (failAhead cause : Reader α) :=
  fun _ => ⟨_, _, rfl⟩

theorem bind_of_error
    {cursor reached : Cursor}
    {fault : Fault}
    (failed : reader cursor = (.error fault, reached)) :
    (reader >>= step) cursor = (.error fault, reached) := by
  change ExceptT.bind reader step cursor = _
  simp only [ExceptT.bind, ExceptT.mk, bind, StateT.bind]
  rw [failed]
  rfl

theorem Local.of_fails
    (fails : Fails reader)
    (otherFails : Fails other) :
    Local front reader other := by
  intro text rest position place _ _ _
  obtain ⟨fault, reached, failed⟩ := fails ⟨text, position⟩
  obtain ⟨otherFault, cursor, alsoFailed⟩ := otherFails ⟨text ++ rest, place⟩
  rw [failed, alsoFailed]
  exact .error

theorem Local.pure (value : α) : Local front (pure value) (pure value) :=
  fun _ _ _ _ _ loose _ => .ok loose

theorem Local.bind
    (first : Local front reader other)
    (second : ∀ value, Local Anything (step value) (following value)) :
    Local front (reader >>= step) (other >>= following) := by
  intro text rest position place stands loose behind
  have parts := first text rest position place stands loose behind
  generalize read : reader ⟨text, position⟩ = outcome at parts
  generalize alsoRead : other ⟨text ++ rest, place⟩ = result at parts
  cases parts with
  | ok left =>
      rw [bind_of_ok read, bind_of_ok alsoRead]
      exact second _ _ _ _ _ trivial left behind
  | error =>
      rw [bind_of_error read, bind_of_error alsoRead]
      exact .error

theorem Local.of_front
    {kind : Bytes → Prop}
    (always : Local kind reader other)
    (stronger : ∀ text, front text → kind text) :
    Local front reader other :=
  fun text rest position place stands => always text rest position place (stronger text stands)

/-- A text is empty or begins with a byte. -/
theorem Local.of_cases
    (here : ∀ byte, Loose byte → Local (At byte) reader other)
    (ended : Local Nothing reader other) :
    Local front reader other := by
  intro text rest position place _ loose behind
  cases text with
  | nil => exact ended [] rest position place rfl loose behind
  | cons byte text => exact here byte (loose byte List.mem_cons_self) _ rest position place rfl loose behind

theorem Local.advance
    (behind : Local Anything reader other) :
    Local (At byte) (do Reader.advance; reader) (do Reader.advance; other) := by
  intro text rest position place stands loose delimited
  obtain ⟨more, rfl⟩ := List.head?_eq_some_iff.mp stands
  exact behind more rest (position.after byte) (place.after byte) trivial
    (List.forall_mem_cons.mp loose).2 delimited

theorem Local.peek_at
    {step following : Option UInt8 → Reader β}
    (seen : Local (At byte) (step (some byte)) (following (some byte))) :
    Local (At byte) (Reader.peek >>= step) (Reader.peek >>= following) := by
  intro text rest position place stands loose delimited
  have first : Reader.peek ⟨text, position⟩ = (.ok (some byte), ⟨text, position⟩) := by
    change ((Except.ok text.head?, _) : Except Fault _ × Cursor) = _
    rw [show text.head? = some byte from stands]
  have second : Reader.peek ⟨text ++ rest, place⟩ = (.ok (some byte), ⟨text ++ rest, place⟩) := by
    change ((Except.ok (text ++ rest).head?, _) : Except Fault _ × Cursor) = _
    rw [List.head?_append, show text.head? = some byte from stands]
    rfl
  rw [bind_of_ok first, bind_of_ok second]
  exact seen text rest position place stands loose delimited

/-- What may be seen where a text ends. -/
def ends : List (Option UInt8) :=
  [none, some 0x2C, some 0x5D, some 0x7D]

theorem forall_ends
    {holds : Option UInt8 → Prop}
    (ended : holds none)
    (comma : holds (some 0x2C))
    (bracket : holds (some 0x5D))
    (brace : holds (some 0x7D)) :
    ∀ mark ∈ ends, holds mark :=
  List.forall_mem_cons.mpr ⟨ended, List.forall_mem_cons.mpr ⟨comma,
    List.forall_mem_cons.mpr ⟨bracket, List.forall_mem_singleton.mpr brace⟩⟩⟩

theorem Local.peek_end
    {step following : Option UInt8 → Reader β}
    (seen : ∀ mark ∈ ends, Local Nothing (step none) (following mark)) :
    Local Nothing (Reader.peek >>= step) (Reader.peek >>= following) := by
  rintro _ rest position place rfl loose delimited
  exact seen rest.head? delimited [] rest position place rfl loose delimited

theorem Local.peek
    {step following : Option UInt8 → Reader β}
    (here : ∀ byte, Loose byte → Local (At byte) (step (some byte)) (following (some byte)))
    (ended : ∀ mark ∈ ends, Local Nothing (step none) (following mark)) :
    Local front (Reader.peek >>= step) (Reader.peek >>= following) :=
  .of_cases (fun byte loose => .peek_at (here byte loose)) (.peek_end ended)

/-- The next byte is one of the text, or else none is accepted. -/
theorem Local.next
    {step following : Option UInt8 → Reader β}
    (here : ∀ byte, Loose byte → Local Anything (step (some byte)) (following (some byte)))
    (ended : Fails (step none))
    (refused : ∀ mark ∈ ends, Fails (following mark)) :
    Local front (Reader.next >>= step) (Reader.next >>= following) := by
  refine .of_cases (fun byte loose => ?_) ?_
  · intro text rest position place stands loose delimited
    obtain ⟨more, rfl⟩ := List.head?_eq_some_iff.mp stands
    exact here byte (loose byte List.mem_cons_self) more rest (position.after byte) (place.after byte)
      trivial (List.forall_mem_cons.mp loose).2 delimited
  · rintro _ rest position place rfl loose delimited
    obtain ⟨fault, reached, failed⟩ := ended ⟨[], position⟩
    have behind : ∃ cursor, (Reader.next >>= following) ⟨rest, place⟩ = following rest.head? cursor := by
      cases rest with
      | nil => exact ⟨_, rfl⟩
      | cons byte rest => exact ⟨_, rfl⟩
    obtain ⟨cursor, read⟩ := behind
    obtain ⟨otherFault, left, alsoFailed⟩ := refused rest.head? delimited cursor
    have first : (Reader.next >>= step) ⟨[], position⟩ = (.error fault, reached) := failed
    rw [List.nil_append, first, read, alsoFailed]
    exact .error

theorem Local.placed
    (same : Local front reader other) :
    Local front (Reader.placed reader) (Reader.placed other) := by
  intro text rest position place stands loose delimited
  have parts := same text rest position place stands loose delimited
  rw [Reader.placed, Reader.placed]
  generalize reader ⟨text, position⟩ = outcome at parts
  generalize other ⟨text ++ rest, place⟩ = result at parts
  cases parts with
  | ok left => exact .ok left
  | error => exact .error

theorem Local.skipBlanks_at
    {step following : Option UInt8 → Reader β}
    (solid : isSpace byte = false)
    (seen : Local (At byte) (step (some byte)) (following (some byte))) :
    Local (At byte) (Json.skipBlanks >>= step) (Json.skipBlanks >>= following) := by
  intro text rest position place stands loose delimited
  obtain ⟨more, rfl⟩ := List.head?_eq_some_iff.mp stands
  rw [List.cons_append, bind_of_ok (skipBlanks_of_solid solid _ _),
    bind_of_ok (skipBlanks_of_solid solid _ _)]
  exact seen _ rest position place stands loose delimited

end Reader

/-! ## Digits -/

theorem not_digit_of_ends : ∀ mark ∈ ends, digit? mark = none :=
  forall_ends rfl rfl rfl rfl

theorem not_exponentMark_of_ends : ∀ mark ∈ ends, isExponentMark mark = false :=
  forall_ends rfl rfl rfl rfl

/-- The digits at the front of a text are those at the front of what it is part of. -/
theorem takeWhile_append_delimited
    (text : Bytes)
    {rest : Bytes}
    (behind : Delimited rest) :
    (text ++ rest).takeWhile (fun byte => (digit? (some byte)).isSome) =
      text.takeWhile fun byte => (digit? (some byte)).isSome := by
  induction text with
  | nil =>
      cases rest with
      | nil => rfl
      | cons byte rest =>
          have other := not_digit_of_delimited behind
          rw [List.head?_cons] at other
          rw [List.nil_append, List.takeWhile_cons_of_neg (by simp [other]), List.takeWhile_nil]
  | cons byte text ih =>
      rw [List.cons_append, List.takeWhile_cons, List.takeWhile_cons, ih]

theorem steady_skipDigits : Steady Anything skipDigits := by
  intro text rest position place _ loose behind
  have bound := (List.takeWhile_prefix (fun byte => (digit? (some byte)).isSome) : _ <+: text).length_le
  have dropped : skipDigits ⟨text ++ rest, place⟩ =
      (.ok (text.takeWhile fun byte => (digit? (some byte)).isSome).length,
        ⟨text.drop (text.takeWhile fun byte => (digit? (some byte)).isSome).length ++ rest,
          ⟨place.line, place.column + (text.takeWhile fun byte => (digit? (some byte)).isSome).length⟩⟩) := by
    rw [← List.drop_append_of_le_length bound, ← takeWhile_append_delimited text behind]
    rfl
  rw [dropped]
  exact .ok fun byte member => loose byte (List.mem_of_mem_drop member)

theorem addDigits_append
    (limit number count : Nat)
    (text : Bytes)
    {rest : Bytes}
    (behind : Delimited rest) :
    addDigits limit number count (text ++ rest) = addDigits limit number count text := by
  induction text generalizing number count with
  | nil =>
      cases rest with
      | nil => rfl
      | cons byte rest =>
          have other := not_digit_of_delimited behind
          rw [List.head?_cons] at other
          rw [List.nil_append, addDigits.eq_1]
          change addDigits limit number count (byte :: rest) = _
          rw [addDigits, other]
  | cons byte text ih =>
      rw [List.cons_append, addDigits, addDigits]
      split
      · rfl
      · rw [ih]

theorem addDigits_count_le
    (limit number count : Nat)
    (text : Bytes) :
    (addDigits limit number count text).2 ≤ count + text.length := by
  induction text generalizing number count with
  | nil => exact Nat.le_refl _
  | cons byte text ih =>
      rw [addDigits, List.length_cons]
      split
      · exact Nat.le_add_right _ _
      · split
        · exact Nat.le_add_right _ _
        · exact Nat.le_trans (ih _ _) (by omega)

theorem steady_readDigits (limit number : Nat) :
    Steady Anything (readDigits limit number) := by
  intro text rest position place _ loose behind
  have bound : (addDigits limit number 0 text).2 ≤ text.length :=
    Nat.zero_add text.length ▸ addDigits_count_le limit number 0 text
  have read : readDigits limit number ⟨text ++ rest, place⟩ =
      (.ok (addDigits limit number 0 text),
        ⟨text.drop (addDigits limit number 0 text).2 ++ rest,
          ⟨place.line, place.column + (addDigits limit number 0 text).2⟩⟩) := by
    rw [← List.drop_append_of_le_length bound, ← addDigits_append limit number 0 text behind]
    rfl
  rw [read]
  exact .ok fun byte member => loose byte (List.mem_of_mem_drop member)

/-! ## Numbers -/

theorem steady_readScaled (negative : Bool) (digits : Nat) (power : Int) :
    Steady Anything (readScaled negative digits power) := by
  rw [readScaled]
  split
  · exact .of_fails (fails_failHere _) (fails_failHere _)
  · exact .pure _

/-- What is read behind the sign of an exponent. -/
def readExponentDigits (negative : Bool) (digits : Nat) (power : Int) (downward : Bool) :
    Reader Number := do
  let first ← next
  match digit? first, first with
  | none, none => failHere .valueEnds
  | none, some _ => failHere .numberInvalid
  | some leading, _ => do
      let (exponent, _) ← readDigits greatestExponent leading
      match digit? (← peek) with
      | some _ =>
          advance
          if digits ≠ 0 && !downward then failHere .numberOutOfRange
          else do
            let _ ← skipDigits
            return .real (Real64.signed negative ⟨0⟩)
      | none =>
          readScaled negative digits (if downward then power - exponent else power + exponent)

theorem readExponent_eq (negative : Bool) (digits : Nat) (power : Int) :
    readExponent negative digits power = (do
      advance
      match ← peek with
      | some 0x2B => do advance; readExponentDigits negative digits power false
      | some 0x2D => do advance; readExponentDigits negative digits power true
      | _ => readExponentDigits negative digits power false) :=
  rfl

theorem steady_readExponentDigits (negative : Bool) (digits : Nat) (power : Int) (downward : Bool) :
    Steady Anything (readExponentDigits negative digits power downward) := by
  rw [readExponentDigits]
  refine .next (fun byte _ => ?_) (fails_failHere _) ?_
  · cases digit? (some byte) with
    | none => exact .of_fails (fails_failHere _) (fails_failHere _)
    | some leading =>
        refine (steady_readDigits _ _).bind fun (exponent, _) => .peek (fun mark _ => ?_) fun mark listed => ?_
        · cases digit? (some mark) with
          | none => exact (steady_readScaled _ _ _).of_front fun _ _ => trivial
          | some _ =>
              refine .advance ?_
              split
              · exact .of_fails (fails_failHere _) (fails_failHere _)
              · exact steady_skipDigits.bind fun _ => .pure _
        · rw [not_digit_of_ends mark listed]
          exact (steady_readScaled _ _ _).of_front fun _ _ => trivial
  · exact forall_ends (fails_failHere _) (fails_failHere _) (fails_failHere _) (fails_failHere _)

theorem steady_readExponent (negative : Bool) (digits : Nat) (power : Int) (byte : UInt8) :
    Steady (At byte) (readExponent negative digits power) := by
  have behind := steady_readExponentDigits negative digits power
  have ended := (behind false).of_front fun (text : Bytes) (_ : Nothing text) => trivial
  rw [readExponent_eq]
  refine .advance (.peek (fun mark _ => ?_) (forall_ends ended ended ended ended))
  split
  · exact .advance (behind false)
  · exact .advance (behind true)
  · exact (behind false).of_front fun _ _ => trivial

/-- Behind the digits stands an exponent, or the number is complete. -/
theorem steady_scaled (negative : Bool) (digits : Nat) (power : Int) :
    Steady Anything
      (do if isExponentMark (← peek) then readExponent negative digits power
          else readScaled negative digits power) := by
  refine .peek (fun mark _ => ?_) fun mark listed => ?_
  · split
    · exact steady_readExponent _ _ _ _
    · exact (steady_readScaled _ _ _).of_front fun _ _ => trivial
  · rw [not_exponentMark_of_ends mark listed]
    exact (steady_readScaled _ _ _).of_front fun _ _ => trivial

/-- A point with no digits behind it is refused, whatever else is there. -/
theorem fails_pointless :
    Fails (do
      match ← peek with
      | some _ => failAhead .numberInvalid
      | none => failAhead .valueEnds : Reader Number) := by
  rintro ⟨text, position⟩
  cases text <;> exact ⟨_, _, rfl⟩

theorem steady_readFraction (negative : Bool) (digits : Nat) (power : Int) (byte : UInt8) :
    Steady (At byte) (readFraction negative digits power) := by
  rw [readFraction]
  refine .advance ((steady_readDigits _ _).bind fun (extended, count) => ?_)
  have complete : ∀ {front : Bytes → Prop}, Steady front
      (if count = 0 then
        do
          match ← peek with
          | some _ => failAhead .numberInvalid
          | none => failAhead .valueEnds
      else do
        if isExponentMark (← peek) then readExponent negative extended (power - count)
        else readScaled negative extended (power - count)) := by
    intro front
    split
    · exact .of_fails fails_pointless fails_pointless
    · exact (steady_scaled _ _ _).of_front fun _ _ => trivial
  refine .peek (fun mark _ => ?_) fun mark listed => ?_
  · cases digit? (some mark) with
    | some _ => exact (steady_skipDigits.bind fun _ => steady_scaled _ _ _).of_front fun _ _ => trivial
    | none => exact complete
  · rw [not_digit_of_ends mark listed]
    exact complete

theorem steady_readAfterInteger (negative : Bool) (digits : Nat) :
    Steady Anything (readAfterInteger negative digits) := by
  have complete : ∀ {front : Bytes → Prop}, Steady front
      (if !negative then return .integer digits
        else if digits = 0 || twoTo 63 < digits then
          return .real (Real64.ofFloat (-(UInt64.ofNat digits).toFloat))
        else return .integer (-digits) : Reader Number) := by
    intro front
    split
    · exact .pure _
    · split <;> exact .pure _
  rw [readAfterInteger]
  refine .peek (fun mark _ => ?_) (forall_ends complete complete complete complete)
  split
  · rename_i point
    obtain rfl := Option.some.inj point
    exact steady_readFraction _ _ _ _
  · split
    · exact steady_readExponent _ _ _ _
    · exact complete

/-- More digits than are kept are passed over, and then the number goes on. -/
theorem steady_dropped (negative : Bool) (digits : Nat) :
    Steady Anything
      (do
        let dropped ← skipDigits
        match ← peek with
        | some 0x2E => readFraction negative digits dropped
        | mark =>
            if isExponentMark mark then readExponent negative digits dropped
            else readScaled negative digits dropped) := by
  refine steady_skipDigits.bind fun dropped => ?_
  have complete := (steady_readScaled negative digits dropped).of_front
    fun (text : Bytes) (_ : Nothing text) => trivial
  refine .peek (fun mark _ => ?_) (forall_ends complete complete complete complete)
  split
  · rename_i point
    obtain rfl := Option.some.inj point
    exact steady_readFraction _ _ _ _
  · split
    · exact steady_readExponent _ _ _ _
    · exact (steady_readScaled _ _ _).of_front fun _ _ => trivial

theorem steady_readNumber (negative : Bool) :
    Steady Anything (readNumber negative) := by
  rw [readNumber]
  refine .next (fun byte _ => ?_) (fails_failHere _)
    (forall_ends (fails_failHere _) (fails_failHere _) (fails_failHere _) (fails_failHere _))
  generalize digit? (some byte) = value
  obtain _ | _ | leading := value
  · exact .of_fails (fails_failHere _) (fails_failHere _)
  · refine .peek (fun mark _ => ?_) fun mark listed => ?_
    · cases digit? (some mark) with
      | some _ => exact .of_fails (fails_failAhead _) (fails_failAhead _)
      | none => exact (steady_readAfterInteger _ _).of_front fun _ _ => trivial
    · rw [not_digit_of_ends mark listed]
      exact (steady_readAfterInteger _ _).of_front fun _ _ => trivial
  · refine (steady_readDigits _ _).bind fun (digits, _) => .peek (fun mark _ => ?_) fun mark listed => ?_
    · cases digit? (some mark) with
      | some _ => exact (steady_dropped _ _).of_front fun _ _ => trivial
      | none => exact (steady_readAfterInteger _ _).of_front fun _ _ => trivial
    · rw [not_digit_of_ends mark listed]
      exact (steady_readAfterInteger _ _).of_front fun _ _ => trivial

/-! ## Words, and values that are one number or word -/

theorem not_loose_of_ends : ∀ byte, some byte ∈ ends → ¬ Loose byte := by
  intro byte listed loose
  simp only [ends, List.mem_cons, Option.some.injEq, List.not_mem_nil, or_false, reduceCtorEq,
    false_or] at listed
  rcases listed with rfl | rfl | rfl <;> exact absurd loose (by decide)

theorem steady_readWord
    {word : Bytes}
    (loose : AllLoose word) :
    Steady Anything (readWord word) := by
  induction word with
  | nil => exact .pure ()
  | cons expected word ih =>
      obtain ⟨first, others⟩ := List.forall_mem_cons.mp loose
      rw [readWord]
      refine .next (fun byte _ => ?_) (fails_failHere _) fun mark listed => ?_
      · dsimp only
        split
        · exact ih others
        · exact .of_fails (fails_failHere _) (fails_failHere _)
      · cases mark with
        | none => exact fails_failHere _
        | some byte =>
            have apart : byte ≠ expected := by
              rintro rfl
              exact not_loose_of_ends _ listed first
            dsimp only
            rw [if_neg apart]
            exact fails_failHere _

/-- A value without marks is read alike at any depth, whether or not something stands behind it. -/
theorem local_readValue
    {byte : UInt8}
    (loose : Loose byte)
    (depth other : Nat) :
    Local (At byte) (readValue (depth + 1)) (readValue (other + 1)) := by
  have apart {mark : UInt8} (marked : ¬ Loose mark) : byte ≠ mark := fun same => marked (same ▸ loose)
  have quote : byte ≠ 0x22 := apart (by decide)
  have bracket : byte ≠ 0x5B := apart (by decide)
  have brace : byte ≠ 0x7B := apart (by decide)
  rw [readValue, readValue]
  refine .placed (.skipBlanks_at loose.1 ?_)
  simp only [quote, bracket, brace, if_false]
  split
  · exact .advance ((steady_readWord (by decide)).bind fun _ => .pure _)
  · split
    · exact .advance ((steady_readWord (by decide)).bind fun _ => .pure _)
    · split
      · exact .advance ((steady_readWord (by decide)).bind fun _ => .pure _)
      · split
        · exact .advance ((steady_readNumber true).bind fun _ => .pure _)
        · split
          · exact ((steady_readNumber false).bind fun _ => .pure _).of_front fun _ _ => trivial
          · exact .of_fails (fails_failAhead _) (fails_failAhead _)

end RequestHub.Json
